import CodePager.Backend.Params
import CodePager.Proofs.Fields
import Mathlib.Data.List.Induction

/-! # Parameters as a record of assignments

Calls that set parameters come down to a list of assignments, and the parameters that they leave
behind are told from that list alone: a key has the last value assigned to it that is not empty
(`Assignments.lastValue?`), and the keys stand in the order in which each was first assigned such a
value (`Assignments.firstAt`). This is `Params.Records`; one assignment keeps it (`Records.set`), so
it holds of whatever a history of calls has made of no parameters (`params_record_calls`). Merging
the parameters that other calls have made is making these calls (`Params.extend_assign`). -/

namespace CodePager

/-! ### Assignments -/

/-- Values assigned to keys, the first assignment first. -/
abbrev Assignments := List (String × String)

namespace Assignments

/-- Whether an assignment gives a key a value that is not empty. -/
def gives (key : String) (a : String × String) : Bool := a.1 = key ∧ a.2 ≠ ""

/-- The place of the **first assignment** that gives a key a value; the number of all assignments if
there is none. -/
def firstAt (assigned : Assignments) (key : String) : Nat := assigned.findIdx (gives key)

/-- The **last value** that is given to a key. -/
def lastValue? (assigned : Assignments) (key : String) : Option String :=
  ((assigned.filter (gives key)).map Prod.snd).getLast?

variable {assigned : Assignments} {key : String} {a : String × String}

/-- An assignment gives a key a value if it is of that key and its value is not empty. -/
theorem gives_iff : gives key a = true ↔ a.1 = key ∧ a.2 ≠ "" := decide_eq_true_iff

/-- One more assignment that gives the key a value is **its last one**. -/
theorem lastValue?_append_of_gives (h : gives key a = true) :
    lastValue? (assigned ++ [a]) key = some a.2 := by
  rw [lastValue?, List.filter_append, List.filter_cons_of_pos h, List.filter_nil, List.map_append]
  exact List.getLast?_concat

/-- One more assignment that gives the key no value leaves its last one. -/
theorem lastValue?_append_of_not_gives (h : ¬ gives key a = true) :
    lastValue? (assigned ++ [a]) key = lastValue? assigned key := by
  rw [lastValue?, List.filter_append, List.filter_cons_of_neg h, List.filter_nil, List.append_nil]
  rfl

/-- The last value was assigned, and it is not empty. -/
theorem of_lastValue? {value : String} (h : lastValue? assigned key = some value) :
    (key, value) ∈ assigned ∧ value ≠ "" := by
  obtain ⟨a, ha, rfl⟩ := List.mem_map.mp (List.mem_of_getLast? h)
  obtain ⟨hmem, hgives⟩ := List.mem_filter.mp ha
  obtain ⟨rfl, hvalue⟩ := gives_iff.mp hgives
  exact ⟨hmem, hvalue⟩

/-- A key has a last value exactly if it is given one at all. -/
theorem lastValue?_eq_none_iff :
    lastValue? assigned key = none ↔ ∀ value, (key, value) ∈ assigned → value = "" := by
  rw [lastValue?, List.getLast?_eq_none_iff, List.map_eq_nil_iff, List.filter_eq_nil_iff]
  constructor
  · intro h value hmem
    by_contra hvalue
    exact h _ hmem (gives_iff.mpr ⟨rfl, hvalue⟩)
  · intro h a hmem hgives
    obtain ⟨rfl, hvalue⟩ := gives_iff.mp hgives
    exact hvalue (h a.2 hmem)

/-- Further assignments do not move the first one. -/
theorem firstAt_append_of_lt (h : firstAt assigned key < assigned.length) :
    firstAt (assigned ++ [a]) key = firstAt assigned key := by
  rw [firstAt, List.findIdx_append]
  exact if_pos h

/-- A key that is given a value for the first time comes after all that are there. -/
theorem firstAt_append_of_gives (h : ¬ firstAt assigned key < assigned.length)
    (hgives : gives key a = true) : firstAt (assigned ++ [a]) key = assigned.length := by
  rw [firstAt, List.findIdx_append]
  refine (if_neg h).trans ?_
  rw [List.findIdx_cons, hgives]
  exact Nat.zero_add _

/-- A key has a first value exactly if it is given one at all. -/
theorem firstAt_lt_length_iff :
    firstAt assigned key < assigned.length ↔ ∃ value, (key, value) ∈ assigned ∧ value ≠ "" := by
  rw [firstAt, List.findIdx_lt_length]
  constructor
  · rintro ⟨a, hmem, hgives⟩
    obtain ⟨rfl, hvalue⟩ := gives_iff.mp hgives
    exact ⟨a.2, hmem, hvalue⟩
  · rintro ⟨value, hmem, hvalue⟩
    exact ⟨(key, value), hmem, gives_iff.mpr ⟨rfl, hvalue⟩⟩

end Assignments

open Assignments

namespace Params

/-- Makes assignments, one after the other. -/
def assign (p : Params) (assigned : Assignments) : Params :=
  assigned.foldl (fun q a => q.set a.1 a.2) p

/-- No assignments leave parameters as they are. -/
@[simp] theorem assign_nil (p : Params) : p.assign [] = p := rfl

/-- The first assignment is made first: `(p.set a.1 a.2).assign assigned`. -/
@[simp] theorem assign_cons (p : Params) (a : String × String) (assigned : Assignments) :
    p.assign (a :: assigned) = (p.set a.1 a.2).assign assigned := rfl

/-- Assignments one after the other are made one after the other:
`(p.assign assigned).assign more`. -/
theorem assign_append (p : Params) (assigned more : Assignments) :
    p.assign (assigned ++ more) = (p.assign assigned).assign more := List.foldl_append

/-- Parameters are merged by assigning them. -/
theorem extend_eq_assign (p other : Params) : p.extend other = p.assign other.pairs := rfl

/-- Only assignments of a value count. -/
theorem assign_filter (p : Params) (assigned : Assignments) :
    p.assign (assigned.filter fun a => a.2 ≠ "") = p.assign assigned := by
  induction assigned generalizing p with
  | nil => rfl
  | cons a rest ih =>
    by_cases hvalue : a.2 = ""
    · rw [List.filter_cons_of_neg (by simpa using hvalue), assign_cons, hvalue, set_empty, ih]
    · rw [List.filter_cons_of_pos (by simpa using hvalue), assign_cons, assign_cons, ih]

/-! ### Keys -/

/-- The names of the parameters of a request. -/
def keys (p : Params) : List String := p.pairs.map Prod.fst

/-- A new parameter is the last one. -/
theorem set_of_not_mem {p : Params} {key value : String} (hkey : key ∉ p.keys)
    (hvalue : value ≠ "") : p.set key value = ⟨p.pairs ++ [(key, value)]⟩ := by
  rw [set, if_neg hvalue, Fields.put_of_not_mem hkey]

/-- Setting a key of some names keeps the keys among these names. -/
theorem keys_set_subset {p : Params} {key value : String} {names : List String}
    (hp : p.keys ⊆ names) (hkey : key ∈ names) : (p.set key value).keys ⊆ names := by
  unfold set
  split
  · exact hp
  · rw [keys, Fields.keys_put]
    split
    · exact hp
    · exact List.append_subset.mpr ⟨hp, List.cons_subset.mpr ⟨hkey, List.nil_subset _⟩⟩

/-- Setting an optional value for a key of some names keeps the keys among these names. -/
theorem keys_setOpt_subset {p : Params} {key : String} {value : Option String}
    {names : List String} (hp : p.keys ⊆ names) (hkey : key ∈ names) :
    (p.setOpt key value).keys ⊆ names := by
  cases value with
  | none => exact hp
  | some v => exact keys_set_subset hp hkey

/-- A parameter that is set again keeps its place. -/
theorem keys_set_of_mem {p : Params} {key value : String} (h : key ∈ p.keys) :
    (p.set key value).keys = p.keys := by
  unfold set
  split
  · rfl
  · exact (Fields.keys_put key value p.pairs).trans (if_pos h)

/-- A key is one of the keys exactly if it has a value: `(p.get? key).isSome`. -/
theorem mem_keys_iff {p : Params} {key : String} : key ∈ p.keys ↔ (p.get? key).isSome := by
  rw [get?, Option.isSome_iff_ne_none, Ne, Fields.get?_eq_none_iff, not_not, keys]

/-! ### What a record tells -/

/-- Parameters **record assignments**: each key has its last value, and the keys stand in the order
of their first ones. -/
structure Records (p : Params) (assigned : Assignments) : Prop where
  get?_eq : ∀ key, p.get? key = lastValue? assigned key
  keys_sorted : p.keys.Pairwise fun key other => firstAt assigned key < firstAt assigned other

namespace Records

variable {p : Params} {assigned : Assignments} {key value : String}

/-- Parameters that record assignments have **no key twice**. -/
theorem keys_nodup (h : p.Records assigned) : p.keys.Nodup := by
  refine h.keys_sorted.imp fun {key other} hlt heq => ?_
  rw [heq] at hlt
  exact Nat.lt_irrefl _ hlt

/-- What is listed is what is looked up. -/
theorem mem_pairs_iff (h : p.Records assigned) :
    (key, value) ∈ p.pairs ↔ lastValue? assigned key = some value := by
  rw [← h.get?_eq]
  exact (Fields.get?_eq_some_iff h.keys_nodup).symm

/-- Parameters that record assignments have **no empty value**. -/
theorem value_ne_empty (h : p.Records assigned) {a : String × String} (ha : a ∈ p.pairs) :
    a.2 ≠ "" := (of_lastValue? (h.mem_pairs_iff.mp ha)).2

/-- The keys are those that are given a value. -/
theorem mem_keys_iff_assigned (h : p.Records assigned) :
    key ∈ p.keys ↔ ∃ value, (key, value) ∈ assigned ∧ value ≠ "" := by
  rw [mem_keys_iff, h.get?_eq, Option.isSome_iff_ne_none, Ne, lastValue?_eq_none_iff]
  push Not
  rfl

/-- A key of the parameters was first given a value at one of the assignments. -/
theorem firstAt_lt_length (h : p.Records assigned) (hkey : key ∈ p.keys) :
    firstAt assigned key < assigned.length :=
  firstAt_lt_length_iff.mpr (h.mem_keys_iff_assigned.mp hkey)

/-- Where every key is assigned once, the values that are not empty are recorded. -/
theorem mem_pairs_iff_of_nodup (h : p.Records assigned) (hn : (assigned.map Prod.fst).Nodup) :
    (key, value) ∈ p.pairs ↔ (key, value) ∈ assigned ∧ value ≠ "" := by
  rw [h.mem_pairs_iff]
  refine ⟨of_lastValue?, ?_⟩
  rintro ⟨hmem, hvalue⟩
  cases hlast : lastValue? assigned key with
  | none => exact absurd (lastValue?_eq_none_iff.mp hlast value hmem) hvalue
  | some last =>
    have heq := List.inj_on_of_nodup_map hn (of_lastValue? hlast).1 hmem rfl
    rw [(Prod.mk.inj heq).2]

/-! ### One assignment, and all of them -/

/-- No parameters record no assignments. -/
theorem empty : Params.empty.Records [] where
  get?_eq _ := rfl
  keys_sorted := List.Pairwise.nil

/-- A further assignment leaves the keys that are there **in their order**. -/
theorem keys_sorted_append (h : p.Records assigned) (a : String × String) :
    p.keys.Pairwise fun k k' => firstAt (assigned ++ [a]) k < firstAt (assigned ++ [a]) k' := by
  refine h.keys_sorted.imp_of_mem fun hk hk' hlt => ?_
  rw [firstAt_append_of_lt (h.firstAt_lt_length hk), firstAt_append_of_lt (h.firstAt_lt_length hk')]
  exact hlt

/-- An assignment of the empty value is recorded by doing nothing. -/
theorem append_empty (h : p.Records assigned) (key : String) :
    p.Records (assigned ++ [(key, "")]) := by
  refine ⟨fun other => ?_, h.keys_sorted_append (key, "")⟩
  have hnot : ¬ gives other (key, "") = true := fun hg => (gives_iff.mp hg).2 rfl
  rw [h.get?_eq, lastValue?_append_of_not_gives hnot]

/-- The key of an assignment that gives it a value gets this value, and the others keep theirs. -/
theorem get?_set_eq (h : p.Records assigned) (hvalue : value ≠ "") (other : String) :
    (p.set key value).get? other = lastValue? (assigned ++ [(key, value)]) other := by
  by_cases hother : other = key
  · subst hother
    rw [get?_set_self p other hvalue, lastValue?_append_of_gives (gives_iff.mpr ⟨rfl, hvalue⟩)]
  · have hnot : ¬ gives other (key, value) = true := fun hg => hother (gives_iff.mp hg).1.symm
    rw [get?_set_of_ne p hother, h.get?_eq, lastValue?_append_of_not_gives hnot]

/-- **One assignment** is recorded. -/
theorem set (h : p.Records assigned) (key value : String) :
    (p.set key value).Records (assigned ++ [(key, value)]) := by
  by_cases hvalue : value = ""
  · rw [hvalue, set_empty]
    exact h.append_empty key
  refine ⟨h.get?_set_eq hvalue, ?_⟩
  have hold := h.keys_sorted_append (key, value)
  by_cases hkey : key ∈ p.keys
  · rw [keys_set_of_mem hkey]
    exact hold
  · -- The key is new, and its first assignment is the one made now.
    have hfirst : ¬ firstAt assigned key < assigned.length := fun hlt =>
      hkey (h.mem_keys_iff_assigned.mpr (firstAt_lt_length_iff.mp hlt))
    rw [set_of_not_mem hkey hvalue, keys, List.map_append]
    refine List.pairwise_append.mpr ⟨hold, List.pairwise_singleton _ _, fun k hk k' hk' => ?_⟩
    obtain rfl : k' = key := List.mem_singleton.mp hk'
    have hlt := h.firstAt_lt_length hk
    rw [firstAt_append_of_lt hlt, firstAt_append_of_gives hfirst (gives_iff.mpr ⟨rfl, hvalue⟩)]
    exact hlt

/-- **All assignments** are recorded. -/
theorem assign (h : p.Records assigned) (more : Assignments) :
    (p.assign more).Records (assigned ++ more) := by
  induction more generalizing p assigned with
  | nil =>
    rw [List.append_nil]
    exact h
  | cons a rest ih =>
    have hrest := ih (h.set a.1 a.2)
    rwa [List.append_assoc] at hrest

end Records

/-- What assignments make of no parameters records them. -/
theorem records_assign (assigned : Assignments) : (Params.empty.assign assigned).Records assigned :=
  Records.empty.assign assigned

/-! ### Merging -/

/-- A parameter that is there can be set before or after others. -/
theorem assign_set_comm {p : Params} {key value : String} {assigned : Assignments}
    (hkey : key ∈ p.keys) (hnot : key ∉ assigned.map Prod.fst) :
    (p.assign assigned).set key value = (p.set key value).assign assigned := by
  induction assigned generalizing p with
  | nil => rfl
  | cons a rest ih =>
    simp only [List.map_cons, List.mem_cons, not_or] at hnot
    have hstays : key ∈ (p.set a.1 a.2).keys := by
      rw [mem_keys_iff] at hkey ⊢
      rwa [get?_set_of_ne p hnot.1]
    have hswap : (p.set a.1 a.2).set key value = (p.set key value).set a.1 a.2 := by
      unfold set
      by_cases hvalue : value = ""
      · simp [hvalue]
      · by_cases ha : a.2 = ""
        · simp [ha]
        · simp only [hvalue, ha, if_false]
          rw [Fields.put_comm_of_mem (Ne.symm hnot.1) hkey]
    rw [assign_cons, assign_cons, ih hstays hnot.2, hswap]

/-- A parameter that is set again is replaced **where it stands**. -/
theorem exists_pairs_set_of_mem {q : Params} {assigned : Assignments} (hq : q.Records assigned)
    {key value : String} (hkey : key ∈ q.keys) (hvalue : value ≠ "") :
    ∃ before old after, q.pairs = before ++ (key, old) :: after ∧ old ≠ "" ∧
      key ∉ after.map Prod.fst ∧ (q.set key value).pairs = before ++ (key, value) :: after := by
  obtain ⟨⟨k, old⟩, hmem, rfl⟩ := List.mem_map.mp hkey
  obtain ⟨before, after, hpairs⟩ := List.append_of_mem hmem
  have hnodup := hq.keys_nodup
  rw [keys, hpairs, List.map_append, List.map_cons, List.nodup_middle, List.nodup_cons,
    List.mem_append, not_or] at hnodup
  obtain ⟨⟨hbefore, hafter⟩, -⟩ := hnodup
  refine ⟨before, old, after, hpairs, hq.value_ne_empty hmem, hafter, ?_⟩
  rw [set, if_neg hvalue, hpairs, Fields.put_append_of_not_mem hbefore]
  simp [Fields.put]

/-- Merging parameters of which one has been set is merging them and setting it. -/
theorem extend_set {q : Params} {assigned : Assignments} (hq : q.Records assigned) (p : Params)
    (key value : String) : p.extend (q.set key value) = (p.extend q).set key value := by
  by_cases hvalue : value = ""
  · rw [hvalue, set_empty, set_empty]
  by_cases hkey : key ∈ q.keys
  · obtain ⟨before, old, after, hpairs, hold, hafter, hset⟩ :=
      exists_pairs_set_of_mem hq hkey hvalue
    have hthere : key ∈ ((p.assign before).set key old).keys := by
      rw [mem_keys_iff, get?_set_self _ key hold]
      rfl
    have htwice :
        ((p.assign before).set key old).set key value = (p.assign before).set key value := by
      rw [set, set, set, if_neg hvalue, if_neg hold, if_neg hvalue, Fields.put_put_self]
    -- What is merged behind the old value has other keys, so the new one can be set at once.
    rw [extend_eq_assign, extend_eq_assign, hset, hpairs, assign_append, assign_append, assign_cons,
      assign_cons, assign_set_comm hthere hafter, htwice]
  · rw [extend_eq_assign, set_of_not_mem hkey hvalue, assign_append]
    rfl

/-- **Merging what assignments have made is making them.** -/
theorem extend_assign (p : Params) (assigned : Assignments) :
    p.extend (Params.empty.assign assigned) = p.assign assigned := by
  induction assigned using List.reverseRecOn with
  | nil => rfl
  | append_singleton assigned a ih =>
    rw [assign_append, assign_append, assign_cons, assign_nil,
      extend_set (records_assign assigned), ih]
    rfl

end Params

/-! ### Calls -/

/-- A call that sets parameters. -/
inductive ParamsCall where
  /-- Sets one. -/
  | set (key value : String)
  /-- Sets one if there is a value for it. -/
  | setOpt (key : String) (value : Option String)
  /-- Sets one to a number. -/
  | setNum (key : String) (value : Int)
  /-- Merges others. -/
  | extend (other : Params)

namespace ParamsCall

/-- What a call does. -/
def run : ParamsCall → Params → Params
  | .set key value, p => p.set key value
  | .setOpt key value, p => p.setOpt key value
  | .setNum key value, p => p.setNum key value
  | .extend other, p => p.extend other

/-- The assignments that a call makes, in their order. -/
def assigns : ParamsCall → Assignments
  | .set key value => [(key, value)]
  | .setOpt key value => value.toList.map fun v => (key, v)
  | .setNum key value => [(key, toString value)]
  | .extend other => other.pairs

/-- Makes calls, one after the other. -/
def runAll (calls : List ParamsCall) (p : Params) : Params :=
  calls.foldl (fun q call => call.run q) p

/-- A call **makes its assignments**: `call.run p = p.assign call.assigns`. -/
theorem run_eq_assign (call : ParamsCall) (p : Params) : call.run p = p.assign call.assigns := by
  cases call with
  | set key value => rfl
  | setOpt key value => cases value <;> rfl
  | setNum key value => rfl
  | extend other => rfl

/-- **Calls come down to their assignments.** -/
theorem runAll_eq_assign (calls : List ParamsCall) (p : Params) :
    runAll calls p = p.assign (calls.flatMap assigns) := by
  induction calls generalizing p with
  | nil => rfl
  | cons call rest ih =>
    rw [List.flatMap_cons, Params.assign_append, ← run_eq_assign, ← ih]
    rfl

/-- Optional values are assigned under their names, or not at all. -/
theorem keys_setOpts_sublist (fields : List (String × Option String)) :
    (((fields.map fun f => ParamsCall.setOpt f.1 f.2).flatMap assigns).map Prod.fst).Sublist
      (fields.map Prod.fst) := by
  induction fields with
  | nil => exact List.Sublist.slnil
  | cons f rest ih =>
    obtain ⟨name, value⟩ := f
    cases value with
    | none => exact ih.cons name
    | some v => exact ih.cons_cons name

/-- Setting optional values for some fields assigns just the values that there are. -/
theorem mem_assigns_setOpts {fields : List (String × Option String)} {key value : String} :
    (key, value) ∈ (fields.map fun f => ParamsCall.setOpt f.1 f.2).flatMap assigns ↔
      (key, some value) ∈ fields := by
  rw [List.flatMap_map]
  simp only [assigns, List.mem_flatMap, List.mem_map, Option.mem_toList, Prod.mk.injEq]
  constructor
  · rintro ⟨⟨k, v⟩, hf, w, hw, rfl, rfl⟩
    obtain rfl : v = some w := hw
    exact hf
  · intro hf
    exact ⟨_, hf, value, rfl, rfl, rfl⟩

/-- **Optional values under different names**: those that are there and not empty are set. -/
theorem mem_pairs_setOpts {fields : List (String × Option String)}
    (hn : (fields.map Prod.fst).Nodup) {key value : String} :
    (key, value) ∈ (runAll (fields.map fun f => .setOpt f.1 f.2) .empty).pairs ↔
      (key, some value) ∈ fields ∧ value ≠ "" := by
  rw [runAll_eq_assign, (Params.records_assign _).mem_pairs_iff_of_nodup
    (hn.sublist (keys_setOpts_sublist fields)), mem_assigns_setOpts]

end ParamsCall

/-! ### Main result -/

/-- **Parameters are an ordered map without empty values.** Whatever calls are made on no
parameters: the keys are distinct and no value is empty; the keys are those that were given a value,
in the order in which each was first given one; a key has the last value that it was given. Merging
others is assigning them one by one, and if they were made by calls, making these. Assignments of an
empty value might as well not have been made. -/
theorem params_record_calls (calls : List ParamsCall) :
    let p := ParamsCall.runAll calls .empty
    let assigned := calls.flatMap ParamsCall.assigns
    (p.keys.Nodup ∧ ∀ a ∈ p.pairs, a.2 ≠ "") ∧
    (∀ key, key ∈ p.keys ↔ ∃ value, (key, value) ∈ assigned ∧ value ≠ "") ∧
    (p.keys.Pairwise fun key other => firstAt assigned key < firstAt assigned other) ∧
    (∀ key, p.get? key = lastValue? assigned key) ∧
    (∀ other, p.extend other = ParamsCall.runAll (other.pairs.map fun a => .set a.1 a.2) p) ∧
    (∀ others, p.extend (ParamsCall.runAll others .empty) = ParamsCall.runAll others p) ∧
    p = Params.empty.assign (assigned.filter fun a => a.2 ≠ "") := by
  intro p assigned
  have hp : p = Params.empty.assign assigned := ParamsCall.runAll_eq_assign calls .empty
  have hrecords : p.Records assigned := hp ▸ Params.records_assign assigned
  refine ⟨⟨hrecords.keys_nodup, fun a => hrecords.value_ne_empty⟩,
    fun key => hrecords.mem_keys_iff_assigned, hrecords.keys_sorted, hrecords.get?_eq, ?_, ?_, ?_⟩
  · intro other
    rw [ParamsCall.runAll_eq_assign, List.flatMap_map, Params.extend_eq_assign]
    congr 1
    exact (List.flatMap_singleton' other.pairs).symm
  · intro others
    rw [ParamsCall.runAll_eq_assign, ParamsCall.runAll_eq_assign, Params.extend_assign]
  · rw [Params.assign_filter, hp]

end CodePager
