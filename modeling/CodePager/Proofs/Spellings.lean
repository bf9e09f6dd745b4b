import CodePager.Proofs.Fields
import CodePager.Tools.Call
import Mathlib.Data.List.Induction
import Mathlib.Data.List.Lattice
import Mathlib.Data.List.Nodup
import Mathlib.Data.List.Pairwise
import Mathlib.Data.List.Perm.Basic

/-! # Order and spelling of arguments

An object gives the arguments of a request in any order and each field under any of its names. What
a request is read as is told apart from the walk over the object: a field is read on its own, from
the values that stand under its names (`ArgumentField.valueOf?`), and **a request is read as its
fields are** (`ReadsFields`), however deep they are nested. So nothing but the values given for each
field matters (`RequestShape.read_of_spellings`). -/

namespace CodePager

/-! ### Fields on their own -/

namespace ArgumentField

/-- The names under which a field may be given. -/
def spellings (f : ArgumentField) : List String := f.name :: f.aliases

/-- The values that an object **gives for a field**, under any of its names. -/
def given (f : ArgumentField) (object : List (String × Json)) : List Json :=
  (object.filter fun kv => f.isNamed kv.1).map Prod.snd

/-- What a field is **read as** from the values that are given for it: there may be one at most, and
none only if the field may be left out. -/
def valueOf? (f : ArgumentField) : List Json → Option (Option ArgumentValue)
  | [] => if f.optional then some none else none
  | [v] => (f.read v).toOption
  | _ => none

/-- What is noted of the values that are given for a field: nothing if there are none. -/
def noted? (f : ArgumentField) : List Json → Option (Option (Option ArgumentValue))
  | [] => some none
  | [v] => (f.read v).toOption.map some
  | _ => none

variable {f : ArgumentField} {key : String} {object more : List (String × Json)}
  {vs ws : List Json}

/-- A key names a field exactly if it is **one of its spellings**. -/
theorem isNamed_iff : f.isNamed key = true ↔ key ∈ f.spellings := by
  simp [isNamed, spellings]

/-- A field is named by its name. -/
theorem isNamed_name (f : ArgumentField) : f.isNamed f.name = true :=
  isNamed_iff.mpr List.mem_cons_self

/-- An empty object gives nothing: `f.given [] = []`. -/
@[simp] theorem given_nil (f : ArgumentField) : f.given [] = [] := rfl

/-- Objects give one after the other:
`f.given (object ++ more) = f.given object ++ f.given more`. -/
theorem given_append (f : ArgumentField) (object more : List (String × Json)) :
    f.given (object ++ more) = f.given object ++ f.given more := by
  simp [given]

/-- The first value of an object is given if its key names the field. -/
theorem given_cons (f : ArgumentField) (key : String) (v : Json) (object : List (String × Json)) :
    f.given ((key, v) :: object) =
      if f.isNamed key then v :: f.given object else f.given object := by
  by_cases h : f.isNamed key = true <;> simp [given, h]

/-- The last value of an object is given if its key names the field. -/
theorem given_concat (f : ArgumentField) (object : List (String × Json)) (key : String) (v : Json) :
    f.given (object ++ [(key, v)]) =
      if f.isNamed key then f.given object ++ [v] else f.given object := by
  rw [f.given_append, f.given_cons]
  split <;> simp

/-- An object in which no key names a field gives nothing for it. -/
theorem given_eq_nil (h : ∀ kv ∈ object, f.isNamed kv.1 = false) : f.given object = [] := by
  rw [given, List.filter_eq_nil_iff.mpr (fun kv hkv => by simp [h kv hkv]), List.map_nil]

/-- An object in another order **gives the same values**, in another order. -/
theorem given_perm (h : object.Perm more) : (f.given object).Perm (f.given more) :=
  (h.filter _).map _

/-- Under two names of a field two values are given. -/
theorem two_le_length_given {other : String} (hne : key ≠ other) (hkey : key ∈ f.spellings)
    (hother : other ∈ f.spellings) (hkeyed : key ∈ object.map Prod.fst)
    (hothered : other ∈ object.map Prod.fst) : 2 ≤ (f.given object).length := by
  obtain ⟨kv, hkv, rfl⟩ := List.mem_map.mp hkeyed
  obtain ⟨ow, how, rfl⟩ := List.mem_map.mp hothered
  have hkv' : kv ∈ object.filter fun kv => f.isNamed kv.1 :=
    List.mem_filter.mpr ⟨hkv, isNamed_iff.mpr hkey⟩
  have how' : ow ∈ object.filter fun kv => f.isNamed kv.1 :=
    List.mem_filter.mpr ⟨how, isNamed_iff.mpr hother⟩
  rw [given, List.length_map]
  by_contra hfew
  -- There would be one field only, with both names.
  have hone : (object.filter fun kv => f.isNamed kv.1).length = 1 := by
    have := List.length_pos_of_mem hkv'
    omega
  obtain ⟨only, honly⟩ := List.length_eq_one_iff.mp hone
  rw [honly, List.mem_singleton] at hkv' how'
  exact hne (by rw [hkv', how'])

/-- Two values are one too many. -/
theorem valueOf?_of_two (h : 2 ≤ vs.length) : f.valueOf? vs = none := by
  match vs, h with
  | _ :: _ :: _, _ => rfl

/-- It does not matter in which order values are given. -/
theorem valueOf?_perm (h : vs.Perm ws) : f.valueOf? vs = f.valueOf? ws := by
  match vs, h with
  | [], h => rw [List.nil_perm.mp h]
  | [v], h => rw [List.singleton_perm.mp h]
  | v :: w :: rest, h =>
    have htwo : 2 ≤ (v :: w :: rest).length := Nat.le_add_left 2 rest.length
    rw [valueOf?_of_two htwo, valueOf?_of_two (h.length_eq ▸ htwo)]

/-- What cannot be noted cannot be noted with more values either. -/
theorem noted?_append (h : f.noted? vs = none) (ws : List Json) : f.noted? (vs ++ ws) = none := by
  match vs, ws, h with
  | [], _, h => cases h
  | [v], [], h => exact h
  | [_], _ :: _, _ => rfl
  | _ :: _ :: _, _, _ => rfl

/-- Nothing is noted exactly **if nothing is given**: `f.noted? vs = some none ↔ vs = []`. -/
theorem noted?_eq_some_none_iff : f.noted? vs = some none ↔ vs = [] := by
  match vs with
  | [] => simp [noted?]
  | [v] => simp [noted?]
  | _ :: _ :: _ => simp [noted?]

/-- Where something has been noted there is no place for another value. -/
theorem noted?_concat_of_some {x : Option ArgumentValue} (h : f.noted? vs = some (some x))
    (v : Json) : f.noted? (vs ++ [v]) = none := by
  match vs, h with
  | [_], _ => rfl

end ArgumentField

/-- Some fields are **unambiguous** if no name stands for two of them, or twice for one. -/
def Unambiguous (fields : List ArgumentField) : Prop :=
  (fields.flatMap ArgumentField.spellings).Nodup

instance (fields : List ArgumentField) : Decidable (Unambiguous fields) :=
  inferInstanceAs (Decidable (List.Nodup _))

namespace Unambiguous

variable {fields others : List ArgumentField} {f g : ArgumentField} {key : String}

/-- A name stands for one field. -/
theorem eq_of_isNamed (h : Unambiguous fields) (hf : f ∈ fields) (hg : g ∈ fields)
    (hfkey : f.isNamed key = true) (hgkey : g.isNamed key = true) : f = g := by
  by_contra hne
  -- Two fields have no name in common, whichever of them comes first.
  have : Std.Symm (Function.onFun List.Disjoint ArgumentField.spellings) :=
    ⟨fun _ _ h => List.Disjoint.symm h⟩
  have hapart := (List.nodup_flatMap.mp h).2.forall hf hg hne
  exact hapart (ArgumentField.isNamed_iff.mp hfkey) (ArgumentField.isNamed_iff.mp hgkey)

/-- Whether fields are unambiguous does not go by their order. -/
theorem perm (h : Unambiguous fields) (hperm : fields.Perm others) : Unambiguous others :=
  (hperm.flatMap_right _).nodup_iff.mp h

/-- The first of some unambiguous fields are unambiguous. -/
theorem left (h : Unambiguous (fields ++ others)) : Unambiguous fields := by
  rw [Unambiguous, List.flatMap_append] at h
  exact h.of_append_left

/-- The last of some unambiguous fields are unambiguous. -/
theorem right (h : Unambiguous (fields ++ others)) : Unambiguous others := by
  rw [Unambiguous, List.flatMap_append] at h
  exact h.of_append_right

/-- Two names of a field stand for the same one of some fields. -/
theorem isNamed_congr {other : String} (h : Unambiguous fields) (hf : f ∈ fields) (hg : g ∈ fields)
    (hkey : key ∈ f.spellings) (hother : other ∈ f.spellings) :
    g.isNamed other = g.isNamed key := by
  have hfkey := ArgumentField.isNamed_iff.mpr hkey
  have hfother := ArgumentField.isNamed_iff.mpr hother
  rw [Bool.eq_iff_iff]
  constructor
  · intro hgother
    rwa [h.eq_of_isNamed hg hf hgother hfother]
  · intro hgkey
    rwa [h.eq_of_isNamed hg hf hgkey hfkey]

/-- What stands for one of some fields stands for none of the others. -/
theorem not_isNamed (h : Unambiguous (fields ++ others)) (hf : f ∈ fields) (hg : g ∈ others)
    (hkey : f.isNamed key = true) : g.isNamed key = false := by
  rw [Unambiguous, List.flatMap_append, List.nodup_append'] at h
  by_contra hnot
  have hfkey := List.mem_flatMap.mpr ⟨f, hf, ArgumentField.isNamed_iff.mp hkey⟩
  have hgkey := List.mem_flatMap.mpr
    ⟨g, hg, ArgumentField.isNamed_iff.mp (Bool.not_eq_false _ ▸ hnot)⟩
  exact h.2.2 hfkey hgkey

end Unambiguous

/-! ### Fields of one level -/

/-- A name is among some arguments exactly if something is found under it. -/
theorem Arguments.any_eq_isSome (a : Arguments) (name : String) :
    (a.any fun kv => kv.1 == name) = (Fields.get? name a).isSome := by
  induction a with
  | nil => rfl
  | cons kv a ih => by_cases h : kv.1 = name <;> simp [Fields.get?, h, ih]

/-- What has been noted of an object is what **every field on its own** is noted as, and nothing
else; or one of the fields cannot be noted. -/
inductive Notes (fields : List ArgumentField) (object : List (String × Json)) :
    Except DecodeError Arguments → Prop
  | ok {a : Arguments}
      (noted : ∀ f ∈ fields, f.noted? (f.given object) = some (Fields.get? f.name a))
      (names : ∀ kv ∈ a, kv.1 ∈ fields.map ArgumentField.name) : Notes fields object (.ok a)
  | error {e : DecodeError} {f : ArgumentField} (hf : f ∈ fields)
      (h : f.noted? (f.given object) = none) : Notes fields object (.error e)

section OneLevel

variable {own : List ArgumentField} {object : List (String × Json)}

/-- Objects one after the other are read one after the other. -/
theorem readGiven_append (own : List ArgumentField) (read : Arguments)
    (object more : List (String × Json)) :
    readGiven own read (object ++ more) =
      match readGiven own read object with
      | .ok a => readGiven own a more
      | .error e => .error e := by
  induction object generalizing read with
  | nil => rfl
  | cons kv object ih =>
    rw [List.cons_append, readGiven, readGiven]
    cases own.find? fun f => f.isNamed kv.1 with
    | none => exact ih read
    | some f =>
      by_cases hgiven : (read.any fun a => a.1 == f.name) = true
      · simp only [hgiven, if_true]
      · simp only [hgiven]
        cases f.read kv.2 with
        | error e => rfl
        | ok value => exact ih _

/-- A value that can be read is **noted for its field**, if none has been noted before. -/
theorem Notes.concat (hown : Unambiguous own) {a : Arguments} (h : Notes own object (.ok a))
    {f : ArgumentField} (hf : f ∈ own) {key : String} (hkey : f.isNamed key = true) {v : Json}
    {value : Option ArgumentValue} (hgiven : f.given object = []) (hread : f.read v = .ok value) :
    Notes own (object ++ [(key, v)]) (.ok (a ++ [(f.name, value)])) := by
  obtain ⟨hnoted, hnames⟩ | - := h
  have hempty : Fields.get? f.name a = none := by
    have := hnoted f hf
    rw [hgiven, ArgumentField.noted?] at this
    exact (Option.some.inj this).symm
  refine .ok (fun g hg => ?_) fun kv hkv => ?_
  · rw [Fields.get?_append, g.given_concat]
    by_cases hgkey : g.isNamed key = true
    · obtain rfl := hown.eq_of_isNamed hf hg hkey hgkey
      rw [if_pos hgkey, hgiven, List.nil_append, ArgumentField.noted?, hread, hempty]
      simp [Fields.get?, Except.toOption]
    · -- Another field has another name, and is given nothing new.
      have hname : f.name ≠ g.name := fun e =>
        hgkey (hown.eq_of_isNamed hf hg f.isNamed_name (e ▸ g.isNamed_name) ▸ hkey)
      rw [if_neg hgkey, hnoted g hg]
      simp [Fields.get?, hname]
  · rcases List.mem_append.mp hkv with hkv | hkv
    · exact hnames kv hkv
    · rw [List.mem_singleton.mp hkv]
      exact List.mem_map_of_mem hf

/-- **One more value** is noted for the field that it is given for, and for no other. -/
theorem Notes.readGiven_concat (hown : Unambiguous own) {a : Arguments}
    (h : Notes own object (.ok a)) (key : String) (v : Json) :
    Notes own (object ++ [(key, v)]) (readGiven own a [(key, v)]) := by
  have hall := h
  obtain ⟨hnoted, hnames⟩ | - := hall
  rw [readGiven]
  cases hfind : own.find? fun f => f.isNamed key with
  | none =>
    -- No field is meant, so nothing changes.
    refine .ok (fun g hg => ?_) hnames
    rw [g.given_concat, if_neg (List.find?_eq_none.mp hfind g hg)]
    exact hnoted g hg
  | some f =>
    have hf : f ∈ own := List.mem_of_find?_eq_some hfind
    have hkey : f.isNamed key = true := by simpa using List.find?_some hfind
    have hgiven : f.given (object ++ [(key, v)]) = f.given object ++ [v] := by
      rw [f.given_concat, if_pos hkey]
    simp only [a.any_eq_isSome]
    cases hget : Fields.get? f.name a with
    | some x =>
      -- The field has been given before.
      have hbefore := hnoted f hf
      rw [hget] at hbefore
      exact .error hf (hgiven ▸ ArgumentField.noted?_concat_of_some hbefore v)
    | none =>
      have hempty := ArgumentField.noted?_eq_some_none_iff.mp (hget ▸ hnoted f hf)
      simp only [Option.isSome_none, Bool.false_eq_true, if_false]
      cases hread : f.read v with
      | error e =>
        refine .error hf ?_
        rw [hgiven, hempty, List.nil_append, ArgumentField.noted?, hread]
        rfl
      | ok value => exact h.concat hown hf hkey hempty hread

/-- **The fields that an object gives** are noted each on its own. -/
theorem notes_readGiven (hown : Unambiguous own) (object : List (String × Json)) :
    Notes own object (readGiven own [] object) := by
  -- On the object from its end: the last field is read behind all others.
  induction object using List.reverseRecOn with
  | nil => exact .ok (fun f hf => rfl) fun kv hkv => absurd hkv List.not_mem_nil
  | append_singleton object kv ih =>
    rw [readGiven_append]
    cases hread : readGiven own [] object with
    | error e =>
      rw [hread] at ih
      obtain - | ⟨hf, hnone⟩ := ih
      refine .error hf ?_
      rw [ArgumentField.given_append]
      exact ArgumentField.noted?_append hnone _
    | ok a =>
      rw [hread] at ih
      exact ih.readGiven_concat hown kv.1 kv.2

end OneLevel

/-! ### Fields of all levels -/

/-- A result of reading is what **every field on its own** is read as, and nothing else; or one of
the fields cannot be read. -/
inductive ReadsFields (fields : List ArgumentField) (object : List (String × Json)) :
    Except DecodeError Arguments → Prop
  | ok {a : Arguments}
      (values : ∀ f ∈ fields, f.valueOf? (f.given object) = some (a.value? f.name))
      (names : ∀ kv ∈ a, kv.1 ∈ fields.map ArgumentField.name) : ReadsFields fields object (.ok a)
  | error {e : DecodeError} {f : ArgumentField} (hf : f ∈ fields)
      (h : f.valueOf? (f.given object) = none) : ReadsFields fields object (.error e)

/-- A field is read as what is noted of it, and may be left out only if it is optional. -/
theorem ArgumentField.valueOf?_of_noted {f : ArgumentField} {vs : List Json}
    {noted : Option (Option ArgumentValue)} (h : f.noted? vs = some noted) :
    f.valueOf? vs = if !f.optional && noted.isNone then none else some noted.join := by
  match vs, h with
  | [], h =>
    obtain rfl := Option.some.inj h
    cases hoptional : f.optional <;> simp [valueOf?, hoptional]
  | [v], h =>
    obtain ⟨x, hx, rfl⟩ := Option.map_eq_some_iff.mp h
    simp [valueOf?, hx]

/-- A field that cannot be noted **cannot be read**: `f.valueOf? vs = none`. -/
theorem ArgumentField.valueOf?_of_noted_none {f : ArgumentField} {vs : List Json}
    (h : f.noted? vs = none) : f.valueOf? vs = none := by
  match vs, h with
  | [v], h => exact Option.map_eq_none_iff.mp h
  | _ :: _ :: _, _ => rfl

/-- **The fields of one level** are read each on its own. -/
theorem readsFields_readOwn {own : List ArgumentField} (hown : Unambiguous own)
    (object : List (String × Json)) : ReadsFields own object (readOwn own object) := by
  have hnotes := notes_readGiven hown object
  rw [readOwn]
  cases hread : readGiven own [] object with
  | error e =>
    rw [hread] at hnotes
    obtain - | ⟨hf, hnone⟩ := hnotes
    exact .error hf (ArgumentField.valueOf?_of_noted_none hnone)
  | ok a =>
    rw [hread] at hnotes
    obtain ⟨hnoted, hnames⟩ | - := hnotes
    simp only [a.any_eq_isSome]
    cases hmissing : own.find? fun f => !f.optional && !(Fields.get? f.name a).isSome with
    | none =>
      -- A field of which nothing is noted may be left out.
      refine .ok (fun f hf => ?_) hnames
      have hthere := List.find?_eq_none.mp hmissing f hf
      rw [ArgumentField.valueOf?_of_noted (hnoted f hf), if_neg (by simpa using hthere)]
      rfl
    | some f =>
      have hf := List.mem_of_find?_eq_some hmissing
      have hleft := List.find?_some hmissing
      refine .error hf ?_
      rw [ArgumentField.valueOf?_of_noted (hnoted f hf), if_pos (by simpa using hleft)]

namespace ReadsFields

variable {fields others : List ArgumentField} {object more : List (String × Json)}
  {r : Except DecodeError Arguments} {a b : Arguments} {e : DecodeError}

/-- A field that cannot be read stays one among more fields. -/
theorem error_of_subset (h : ReadsFields fields object (.error e)) (hsubset : fields ⊆ others) :
    ReadsFields others object (.error e) := by
  obtain - | ⟨hf, hnone⟩ := h
  exact .error (hsubset hf) hnone

/-- Fields are read in any order. -/
theorem perm (h : ReadsFields fields object r) (hperm : fields.Perm others) :
    ReadsFields others object r := by
  cases h with
  | ok values names =>
    exact .ok (fun f hf => values f (hperm.mem_iff.mpr hf))
      fun kv hkv => (hperm.map _).mem_iff.mp (names kv hkv)
  | error hf hnone => exact .error (hperm.mem_iff.mp hf) hnone

/-- A field that cannot be read makes the reading fail. -/
theorem exists_error (h : ReadsFields fields object r) {f : ArgumentField} (hf : f ∈ fields)
    (hnone : f.valueOf? (f.given object) = none) : ∃ e, r = .error e := by
  cases h with
  | ok values names =>
    rw [values f hf] at hnone
    cases hnone
  | error _ _ => exact ⟨_, rfl⟩

/-- Only what is given for the fields matters. -/
theorem of_given (h : ReadsFields fields more r)
    (hgiven : ∀ f ∈ fields, f.given more = f.given object) : ReadsFields fields object r := by
  cases h with
  | ok values names => exact .ok (fun f hf => hgiven f hf ▸ values f hf) names
  | error hf hnone => exact .error hf (hgiven _ hf ▸ hnone)

/-- A name that no field has is not read. -/
theorem get?_eq_none {name : String} (hnames : ∀ kv ∈ a, kv.1 ∈ fields.map ArgumentField.name)
    (h : name ∉ fields.map ArgumentField.name) : Fields.get? name a = none := by
  refine Fields.get?_eq_none_iff.mpr fun hmem => h ?_
  obtain ⟨kv, hkv, hname⟩ := List.mem_map.mp hmem
  exact hname ▸ hnames kv hkv

/-- **Fields with other names** are read beside each other. -/
theorem append (hunambiguous : Unambiguous (fields ++ others))
    (h : ReadsFields fields object (.ok a)) (h' : ReadsFields others object (.ok b)) :
    ReadsFields (fields ++ others) object (.ok (a ++ b)) := by
  obtain ⟨hvalues, hnames⟩ | - := h
  obtain ⟨hvalues', hnames'⟩ | - := h'
  have hother : ∀ f ∈ fields, ∀ g ∈ others, f.name ≠ g.name := fun f hf g hg e =>
    absurd (e ▸ g.isNamed_name)
      (Bool.eq_false_iff.mp (hunambiguous.not_isNamed hf hg f.isNamed_name))
  refine .ok (fun f hf => ?_) fun kv hkv => ?_
  · rw [Arguments.value?, Fields.get?_append]
    rcases List.mem_append.mp hf with hf | hf
    · have hnone : Fields.get? f.name b = none := get?_eq_none hnames' fun hmem => by
        obtain ⟨g, hg, hname⟩ := List.mem_map.mp hmem
        exact hother f hf g hg hname.symm
      rw [hnone, Option.or_none]
      exact hvalues f hf
    · have hnone : Fields.get? f.name a = none := get?_eq_none hnames fun hmem => by
        obtain ⟨g, hg, hname⟩ := List.mem_map.mp hmem
        exact hother g hg f hf hname
      rw [hnone, Option.none_or]
      exact hvalues' f hf
  · rw [List.map_append, List.mem_append]
    exact (List.mem_append.mp hkv).imp (hnames kv) (hnames' kv)

end ReadsFields

/-- The fields that are nested in some parts, at any depth. -/
def nestedFields : List RequestPart → List ArgumentField
  | [] => []
  | .field _ :: parts => nestedFields parts
  | .nested inner :: parts => allFields inner ++ nestedFields parts

/-- The fields of some parts are their own and the nested ones. -/
theorem allFields_perm (parts : List RequestPart) :
    (allFields parts).Perm (ownFields parts ++ nestedFields parts) := by
  induction parts with
  | nil => rw [allFields, nestedFields, List.append_nil]; rfl
  | cons part parts ih =>
    cases part with
    | field f =>
      rw [allFields, nestedFields]
      exact ih.cons f
    | nested inner =>
      rw [allFields, nestedFields]
      exact (ih.append_left _).trans (List.perm_append_comm_assoc _ _ _)

/-- Fields that share no name with those that have been taken out **find what they are given**. -/
theorem given_notOwn {own others : List ArgumentField} (h : Unambiguous (own ++ others))
    {f : ArgumentField} (hf : f ∈ others) (object : List (String × Json)) :
    f.given (notOwn own object) = f.given object := by
  have hfilter : (fun kv : String × Json => f.isNamed kv.1 && !own.any fun g => g.isNamed kv.1) =
      fun kv => f.isNamed kv.1 := by
    funext kv
    cases hkey : f.isNamed kv.1 with
    | false => rfl
    | true =>
      rw [Bool.true_and, Bool.not_eq_true', List.any_eq_false]
      intro g hg hgkey
      rw [h.not_isNamed hg hf hgkey] at hkey
      cases hkey
  rw [ArgumentField.given, notOwn, List.filter_filter, hfilter, ArgumentField.given]

/-- **Nested fields** are read each on its own, at any depth. -/
theorem readsFields_readNested (parts : List RequestPart) (object : List (String × Json))
    (h : Unambiguous (nestedFields parts)) :
    ReadsFields (nestedFields parts) object (readNested parts object) := by
  -- The nested fields behind a part that nests others: its own, those in it, and those that follow.
  have hlevels : ∀ inner parts : List RequestPart,
      (ownFields inner ++ nestedFields inner ++ nestedFields parts).Perm
        (nestedFields (.nested inner :: parts)) :=
    fun inner parts => ((allFields_perm inner).append_right _).symm
  fun_induction readNested parts object with
  | case1 object =>
    exact .ok (fun f hf => absurd hf List.not_mem_nil) fun kv hkv => absurd hkv List.not_mem_nil
  | case2 field parts object ih => exact ih h
  | case3 inner parts object e hread =>
    -- One of the own fields of a nested part cannot be read.
    have hall := h.perm (hlevels inner parts).symm
    have hown := hread ▸ readsFields_readOwn hall.left.left object
    refine (hown.error_of_subset fun f hf => ?_).perm (hlevels inner parts)
    exact List.mem_append_left _ (List.mem_append_left _ hf)
  | case4 inner parts object a hread e hreadDeeper ih =>
    -- One that is nested deeper cannot be read, from what the own fields have left over.
    have hall := h.perm (hlevels inner parts).symm
    have hdeeper := (hreadDeeper ▸ ih hall.left.right).of_given
      fun f hf => given_notOwn hall.left hf object
    refine (hdeeper.error_of_subset fun f hf => ?_).perm (hlevels inner parts)
    exact List.mem_append_left _ (List.mem_append_right _ hf)
  | case5 inner parts object a hread b hreadDeeper e hreadLater ih ih' =>
    -- One of the parts that follow cannot be read, from the whole object again.
    have hall := h.perm (hlevels inner parts).symm
    have hlater := hreadLater ▸ ih' hall.right
    exact (hlater.error_of_subset fun f hf => List.mem_append_right _ hf).perm (hlevels inner parts)
  | case6 inner parts object a hread b hreadDeeper d hreadLater ih ih' =>
    have hall := h.perm (hlevels inner parts).symm
    have hown := hread ▸ readsFields_readOwn hall.left.left object
    have hdeeper := (hreadDeeper ▸ ih hall.left.right).of_given
      fun f hf => given_notOwn hall.left hf object
    have hlater := hreadLater ▸ ih' hall.right
    exact ((hown.append hall.left hdeeper).append hall hlater).perm (hlevels inner parts)

/-! ### Requests -/

/-- Two readings of a request are **alike**: both fail, or both give the same value for every
field. -/
def Alike (r r' : Except DecodeError Arguments) : Prop :=
  r.toOption.map Arguments.value? = r'.toOption.map Arguments.value?

/-- Readings that read each field alike **are alike**. -/
theorem ReadsFields.alike {fields : List ArgumentField} {object object' : List (String × Json)}
    {r r' : Except DecodeError Arguments} (h : ReadsFields fields object r)
    (h' : ReadsFields fields object' r')
    (hfields : ∀ f ∈ fields, f.valueOf? (f.given object) = f.valueOf? (f.given object')) :
    Alike r r' := by
  cases h with
  | @ok a values names =>
    cases h' with
    | @ok b values' names' =>
      refine congrArg some (funext fun name => ?_)
      by_cases hname : name ∈ fields.map ArgumentField.name
      · obtain ⟨f, hf, rfl⟩ := List.mem_map.mp hname
        exact Option.some.inj ((values f hf).symm.trans ((hfields f hf).trans (values' f hf)))
      · -- A name of no field has a value in neither.
        rw [Arguments.value?, Arguments.value?, get?_eq_none names hname, get?_eq_none names' hname]
    | @error e f hf hnone =>
      rw [← hfields f hf, values f hf] at hnone
      cases hnone
  | @error e f hf hnone =>
    cases h' with
    | @ok b values' names' =>
      rw [hfields f hf, values' f hf] at hnone
      cases hnone
    | @error e' f' hf' hnone' => rfl

namespace RequestShape

/-- **A request is read as its fields are**, each on its own, at any depth. -/
theorem readsFields_read {s : RequestShape} (h : Unambiguous (allFields s.parts))
    (object : List (String × Json)) : ReadsFields (allFields s.parts) object (s.read object) := by
  have hnested : nestedFields [.nested s.parts] = allFields s.parts := by
    rw [nestedFields, nestedFields, List.append_nil]
  have hreads := readsFields_readNested [.nested s.parts] object (hnested ▸ h)
  rwa [hnested] at hreads

/-- **In no request does a name stand for two fields**, at whatever depth they are nested. -/
theorem unambiguous_of_mem {s : RequestShape} (hs : s ∈ all) : Unambiguous (allFields s.parts) := by
  have hall : (all.all fun s => decide (Unambiguous (allFields s.parts))) = true := by cbv
  exact of_decide_eq_true (List.all_eq_true.mp hall s hs)

/-- **Order and spelling of arguments do not matter.** Every request is read as its fields are, each
on its own. So it is read alike from an object with its fields in another order, among others that
stand for no field of the request, and from one in which a field stands under another of its names;
an object with two names of one field is not read. -/
theorem read_of_spellings {s : RequestShape} (hs : s ∈ all) (object : List (String × Json)) :
    ReadsFields (allFields s.parts) object (s.read object) ∧
      (∀ extra object', (∀ kv ∈ extra, ∀ f ∈ allFields s.parts, kv.1 ∉ f.spellings) →
        object'.Perm (object ++ extra) → Alike (s.read object') (s.read object)) ∧
      (∀ f ∈ allFields s.parts, ∀ key ∈ f.spellings, ∀ other ∈ f.spellings,
        (∀ before v after, object = before ++ (key, v) :: after →
          Alike (s.read (before ++ (other, v) :: after)) (s.read object)) ∧
        (key ≠ other → key ∈ object.map Prod.fst → other ∈ object.map Prod.fst →
          ∃ e, s.read object = .error e)) := by
  have hfields := unambiguous_of_mem hs
  have hreads := readsFields_read hfields
  refine ⟨hreads object, fun extra object' hextra hperm => ?reordered,
    fun f hf key hkey other hother => ⟨fun before v after hobject => ?respelled,
      fun hne hkeyed hothered => ?twice⟩⟩
  case reordered =>
    refine (hreads object').alike (hreads object) fun f hf => ?_
    -- Nothing else is given for the field, and what is given comes in another order.
    have hnone : f.given extra = [] := ArgumentField.given_eq_nil fun kv hkv =>
      Bool.eq_false_iff.mpr (mt ArgumentField.isNamed_iff.mp (hextra kv hkv f hf))
    rw [ArgumentField.valueOf?_perm (ArgumentField.given_perm hperm), f.given_append, hnone,
      List.append_nil]
  case respelled =>
    subst hobject
    refine (hreads _).alike (hreads _) fun g hg => ?_
    -- Both names stand for the field, or neither of them does.
    rw [g.given_append, g.given_append, g.given_cons, g.given_cons,
      hfields.isNamed_congr hf hg hkey hother]
  case twice =>
    refine (hreads object).exists_error hf (ArgumentField.valueOf?_of_two ?_)
    exact ArgumentField.two_le_length_given hne hkey hother hkeyed hothered

namespace MethodPage

/-- A page of something of a method, with each field under another of its names. -/
def object : List (String × Json) :=
  [("class", .str "p.Main"), ("original_name", .str "y"), ("page", .int 2), ("limit", .int 50)]

/-- The field that `class` stands for. -/
def className : ArgumentField :=
  ⟨"class_name", ["class"], .text, true, "Display class name, e.g. com.example.MainActivity"⟩

/-- The class is one of the fields of a page of something of a method. -/
theorem className_mem : className ∈ allFields methodPage.parts := by
  simp [methodPage, methodParts, classParts, allFields, optionalText, className]

/-- None of these fields is called `theme`. -/
theorem foreign : ∀ f ∈ allFields methodPage.parts, "theme" ∉ f.spellings := by
  have hnone :
      ((allFields methodPage.parts).all fun f => !f.spellings.contains "theme") = true := by cbv
  intro f hf
  simpa using List.all_eq_true.mp hnone f hf

end MethodPage

/-- A page of something of a method is read **alike** backwards and with a field that it does not
name, and with the class under its other name; with both names of the class it is not read. -/
theorem read_of_spellings_method_page :
    methodPage ∈ all ∧
      Alike
        (methodPage.read [("theme", .null), ("limit", .int 50), ("page", .int 2),
          ("original_name", .str "y"), ("class", .str "p.Main")])
        (methodPage.read MethodPage.object) ∧
      Alike
        (methodPage.read [("class_name", .str "p.Main"), ("original_name", .str "y"),
          ("page", .int 2), ("limit", .int 50)])
        (methodPage.read MethodPage.object) ∧
      ∃ e, methodPage.read (("class_name", .str "p.Other") :: MethodPage.object) = .error e := by
  have hshape : methodPage ∈ all := List.mem_of_getElem? (show all[6]? = some methodPage from rfl)
  have hname : "class" ∈ MethodPage.className.spellings := by decide
  have hother : "class_name" ∈ MethodPage.className.spellings := by decide
  obtain ⟨-, hreordered, hrespelled⟩ := read_of_spellings hshape MethodPage.object
  obtain ⟨-, -, htwice⟩ :=
    read_of_spellings hshape (("class_name", .str "p.Other") :: MethodPage.object)
  have hextra : ∀ kv ∈ [("theme", Json.null)], ∀ f ∈ allFields methodPage.parts,
      kv.1 ∉ f.spellings := by
    intro kv hkv
    rw [List.mem_singleton.mp hkv]
    exact MethodPage.foreign
  refine ⟨hshape, ?_, ?_, ?_⟩
  · exact hreordered _ _ hextra (List.reverse_perm (MethodPage.object ++ [("theme", Json.null)]))
  · exact (hrespelled _ MethodPage.className_mem _ hname _ hother).1 [] _ _ rfl
  · exact (htwice _ MethodPage.className_mem _ hother _ hname).2 (by decide) (by decide) (by decide)

end RequestShape

namespace ToolCall

/-- What a tool is called with are the values of the fields. -/
theorem ofArguments_congr {a b : Arguments} (h : a.value? = b.value?) (t : Tool) :
    ofArguments t a = ofArguments t b := by
  cases t <;>
    simp only [ofArguments, Arguments.classTarget, Arguments.methodTarget, Arguments.fieldTarget,
      Arguments.page, Arguments.requiredText, Arguments.text?, Arguments.integer?,
      Arguments.count?, Arguments.flag?, h]

/-- Calls of a tool whose arguments are read alike are **the same call**, or both are refused. -/
theorem decode_of_alike {name : String} {t : Tool} (ht : Tool.ofName? name = some t)
    {object object' : List (String × Json)}
    (h : Alike (t.request.read object) (t.request.read object')) :
    (decode name object).toOption = (decode name object').toOption := by
  simp only [decode, ht]
  split
  · rfl
  · cases hread : t.request.read object with
    | error e =>
      cases hread' : t.request.read object' with
      | error e' => rfl
      | ok b => rw [hread, hread'] at h; cases h
    | ok a =>
      cases hread' : t.request.read object' with
      | error e' => rw [hread, hread'] at h; cases h
      | ok b =>
        rw [hread, hread'] at h
        exact congrArg some (ofArguments_congr (Option.some.inj h) t)

end ToolCall

end CodePager
