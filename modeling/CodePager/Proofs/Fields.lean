import CodePager.Json.Value
import Mathlib.Data.List.Nodup

/-! # Ordered fields

Laws of the fields of an object, which the table of the cache and the parameters of a request are
kept in: what erasing does, what a list tells in which every key is there once, when settings of
fields can be exchanged, and that both go by keys alone. -/

namespace CodePager

namespace Fields

variable {β : Type}

/-- Erasing a field takes **its value and no other**. -/
theorem get?_erase (key other : String) (fields : List (String × β)) :
    get? other (erase key fields) = if other = key then none else get? other fields := by
  induction fields with
  | nil => simp [erase, get?]
  | cons f rest ih =>
    unfold erase at ih ⊢
    by_cases hk : f.1 = key
    · rw [List.filter_cons_of_neg (by simpa using hk), ih]
      by_cases ho : other = key
      · simp [ho]
      · have hfo : f.1 ≠ other := fun e => ho (e.symm.trans hk)
        simp [get?, hfo, ho]
    · rw [List.filter_cons_of_pos (by simpa using hk)]
      by_cases hfo : f.1 = other
      · have ho : other ≠ key := fun e => hk (hfo.trans e)
        simp [get?, hfo, ho]
      · simp only [get?, hfo, if_false, ih]

/-- Of two lists the first one counts where it has the key. -/
theorem get?_append (key : String) (fields more : List (String × β)) :
    get? key (fields ++ more) = (get? key fields).or (get? key more) := by
  induction fields with
  | nil => rfl
  | cons f rest ih => by_cases h : f.1 = key <;> simp [get?, h, ih]

/-- A key has no value exactly if it is none of the keys. -/
theorem get?_eq_none_iff {key : String} {fields : List (String × β)} :
    get? key fields = none ↔ key ∉ fields.map Prod.fst := by
  induction fields with
  | nil => simp [get?]
  | cons f rest ih =>
    by_cases h : f.1 = key
    · simp [get?, h]
    · have h' : key ≠ f.1 := fun e => h e.symm
      simp [get?, h, h', ih]

/-- The value of a key stands in the list with it: `(key, v) ∈ fields`. -/
theorem mem_of_get? {key : String} {v : β} {fields : List (String × β)}
    (h : get? key fields = some v) : (key, v) ∈ fields := by
  induction fields with
  | nil => cases h
  | cons f rest ih =>
    by_cases hk : f.1 = key
    · simp only [get?, hk, if_true, Option.some.injEq] at h
      exact List.mem_cons.mpr (Or.inl (Prod.ext hk.symm h.symm))
    · simp only [get?, hk, if_false] at h
      exact List.mem_cons_of_mem f (ih h)

/-- Where every key is there once, the table gives what it lists. -/
theorem get?_eq_some_iff {fields : List (String × β)} (hn : (fields.map Prod.fst).Nodup)
    {key : String} {v : β} : get? key fields = some v ↔ (key, v) ∈ fields := by
  refine ⟨mem_of_get?, fun h => ?_⟩
  cases hg : get? key fields with
  | none => exact absurd (List.mem_map_of_mem h) (get?_eq_none_iff.mp hg)
  | some w =>
    have := List.inj_on_of_nodup_map hn (mem_of_get? hg) h rfl
    rw [(Prod.mk.inj this).2]

/-- A field is set behind those in front of it that have other keys. -/
theorem put_append_of_not_mem {key : String} {fields : List (String × β)}
    (h : key ∉ fields.map Prod.fst) (v : β) (rest : List (String × β)) :
    put key v (fields ++ rest) = fields ++ put key v rest := by
  induction fields with
  | nil => rfl
  | cons f others ih =>
    simp only [List.map_cons, List.mem_cons, not_or] at h
    simp only [List.cons_append, put, if_neg (Ne.symm h.1), ih h.2]

/-- Setting a key that is not there adds it at the end. -/
theorem put_of_not_mem {key : String} {fields : List (String × β)}
    (h : key ∉ fields.map Prod.fst) (v : β) : put key v fields = fields ++ [(key, v)] := by
  simpa [put] using put_append_of_not_mem h v []

/-- Erasing a field that is not there changes nothing. -/
theorem erase_of_not_mem {key : String} {fields : List (String × β)}
    (h : key ∉ fields.map Prod.fst) : erase key fields = fields := by
  refine List.filter_eq_self.mpr fun f hf => ?_
  have : f.1 ≠ key := fun e => h (e ▸ List.mem_map_of_mem hf)
  simpa using this

/-- Erasing a field keeps the keys distinct. -/
theorem nodup_keys_erase (key : String) {fields : List (String × β)}
    (h : (fields.map Prod.fst).Nodup) : ((erase key fields).map Prod.fst).Nodup :=
  h.sublist (List.filter_sublist.map Prod.fst)

/-- Erasing a key that is there once makes the table shorter by one. -/
theorem length_erase_of_mem {key : String} {fields : List (String × β)}
    (hn : (fields.map Prod.fst).Nodup) (h : key ∈ fields.map Prod.fst) :
    (erase key fields).length + 1 = fields.length := by
  induction fields with
  | nil => cases h
  | cons f rest ih =>
    simp only [List.map_cons, List.nodup_cons, List.mem_cons] at hn h
    by_cases hk : f.1 = key
    · have hrest : erase key rest = rest := erase_of_not_mem (hk ▸ hn.1)
      have : erase key (f :: rest) = erase key rest := List.filter_cons_of_neg (by simpa using hk)
      rw [this, hrest, List.length_cons]
    · have hmem := h.resolve_left fun e => hk e.symm
      have : erase key (f :: rest) = f :: erase key rest :=
        List.filter_cons_of_pos (by simpa using hk)
      rw [this, List.length_cons, ih hn.2 hmem, List.length_cons]

/-- Of two settings of one field the later counts. -/
theorem put_put_self (key : String) (v w : β) (fields : List (String × β)) :
    put key w (put key v fields) = put key w fields := by
  induction fields with
  | nil => simp [put]
  | cons f rest ih =>
    by_cases hk : f.1 = key
    · simp [put, hk]
    · simp only [put, hk, if_false, ih]

/-- A field that is there is set in its place, so it does not matter whether another is set before
or after it. -/
theorem put_comm_of_mem {key other : String} {fields : List (String × β)} (hne : other ≠ key)
    (h : key ∈ fields.map Prod.fst) (v w : β) :
    put key v (put other w fields) = put other w (put key v fields) := by
  induction fields with
  | nil => cases h
  | cons f rest ih =>
    by_cases hk : f.1 = key
    · simp [put, hk, hne.symm]
    · have hrest : key ∈ rest.map Prod.fst :=
        (List.mem_cons.mp h).resolve_left fun e => hk e.symm
      by_cases hother : f.1 = other
      · simp [put, hother, hne]
      · simp only [put, hk, hother, if_false, ih hrest]

/-- Setting a field and changing all values can be done in either order. -/
theorem map_put {γ : Type} (g : β → γ) (key : String) (v : β) (fields : List (String × β)) :
    (put key v fields).map (fun f => (f.1, g f.2)) =
      put key (g v) (fields.map fun f => (f.1, g f.2)) := by
  induction fields with
  | nil => rfl
  | cons f rest ih =>
    by_cases hk : f.1 = key
    · simp [put, hk]
    · simp only [put, hk, if_false, List.map_cons, ih]

/-- It does not matter whether a field is erased before or after the values are changed. -/
theorem map_erase {γ : Type} (g : β → γ) (key : String) (fields : List (String × β)) :
    (erase key fields).map (fun f => (f.1, g f.2)) =
      erase key (fields.map fun f => (f.1, g f.2)) := by
  rw [erase, erase, List.filter_map]
  rfl

end Fields

end CodePager
