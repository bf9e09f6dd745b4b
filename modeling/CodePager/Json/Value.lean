import CodePager.Word

/-! # JSON values

`Json` is the value type of everything that the bridge reads from the decompiler and writes to its
clients. Objects keep the order of their fields; a field that is set again keeps its place and takes
the new value (`Fields.put`), so a well-formed object has each key once. -/

namespace CodePager

/-- A JSON value. An integer that fits 64 bits, signed or unsigned, stays an integer; every other
number is a double. -/
inductive Json where
  | null
  | bool (value : Bool)
  | int (value : Int)
  | float (value : Float)
  | str (text : String)
  | arr (items : List Json)
  | obj (fields : List (String × Json))
  deriving Inhabited

namespace Fields

/-- Sets a field: in its place if the key is there, else at the end. -/
def put {β : Type} (key : String) (value : β) : List (String × β) → List (String × β)
  | [] => [(key, value)]
  | (k, v) :: rest => if k = key then (key, value) :: rest else (k, v) :: put key value rest

/-- The value of the first field with a key. -/
def get? {β : Type} (key : String) : List (String × β) → Option β
  | [] => none
  | (k, v) :: rest => if k = key then some v else get? key rest

/-- The fields without those of a key. -/
def erase {β : Type} (key : String) (fields : List (String × β)) : List (String × β) :=
  fields.filter fun f => f.1 ≠ key

/-- What has been put is found: `get? key (put key value fields) = some value`. -/
@[simp] theorem get?_put_self {β : Type} (key : String) (value : β) (fields : List (String × β)) :
    get? key (put key value fields) = some value := by
  induction fields with
  | nil => simp [put, get?]
  | cons f rest ih => by_cases h : f.1 = key <;> simp [put, get?, h, ih]

/-- What is put leaves the other fields: `get? other (put key value fields) = get? other fields`. -/
theorem get?_put_of_ne {β : Type} {key other : String} (h : other ≠ key) (value : β)
    (fields : List (String × β)) : get? other (put key value fields) = get? other fields := by
  induction fields with
  | nil => simp [put, get?, h.symm]
  | cons f rest ih =>
    by_cases hk : f.1 = key
    · have : f.1 ≠ other := fun e => h (e ▸ hk)
      simp [put, get?, hk, h.symm]
    · simp [put, get?, hk, ih]

/-- Setting a field adds its key at the end, or keeps the keys as they are. -/
theorem keys_put {β : Type} (key : String) (value : β) (fields : List (String × β)) :
    (put key value fields).map Prod.fst =
      if key ∈ fields.map Prod.fst then fields.map Prod.fst else fields.map Prod.fst ++ [key] := by
  induction fields with
  | nil => simp [put]
  | cons f rest ih =>
    by_cases hk : f.1 = key
    · simp [put, hk]
    · have : key ≠ f.1 := fun e => hk e.symm
      simp only [put, hk, if_false, List.map_cons, ih, List.mem_cons, this, false_or]
      split <;> simp

/-- The value of a field is smaller than the object. -/
theorem sizeOf_lt_of_get? {key : String} {v : Json} {fields : List (String × Json)}
    (h : get? key fields = some v) : sizeOf v < sizeOf fields := by
  induction fields with
  | nil => cases h
  | cons f rest ih =>
    rw [get?] at h
    have hf : sizeOf f.2 < sizeOf f := by
      rw [Prod.mk.sizeOf_spec]
      omega
    have hcons : sizeOf (f :: rest) = 1 + sizeOf f + sizeOf rest := rfl
    split at h
    · obtain rfl := Option.some.inj h
      omega
    · have := ih h
      omega

end Fields

namespace Json

/-- The text of a string value. -/
def asText : Json → Option String
  | .str s => some s
  | _ => none

/-- The items of an array. -/
def asItems : Json → Option (List Json)
  | .arr items => some items
  | _ => none

/-- The fields of an object. -/
def asFields : Json → Option (List (String × Json))
  | .obj fields => some fields
  | _ => none

/-- Only an object has fields: `v.asFields = some fields ↔ v = .obj fields`. -/
theorem asFields_eq_some_iff {v : Json} {fields : List (String × Json)} :
    v.asFields = some fields ↔ v = .obj fields := by
  cases v <;> simp [asFields]

/-- A number that is a 64-bit unsigned integer. -/
def asCount : Json → Option Nat
  | .int n => if IsCount n then some n.toNat else none
  | _ => none

/-- A number that is read as a word fits into one: `n ≤ maxCount`. -/
theorem asCount_le_maxCount {v : Json} {n : Nat} (h : v.asCount = some n) : n ≤ maxCount := by
  cases v with
  | int m =>
    rw [asCount] at h
    split at h
    · rename_i hm
      obtain rfl := Option.some.inj h
      have := hm.2
      unfold maxCount
      omega
    · cases h
  | _ => cases h

/-- Whether a value is a string. -/
def isText (v : Json) : Bool := v.asText.isSome

/-- A natural number as a value. -/
def ofNat (n : Nat) : Json := .int n

/-- A list of texts as a value. -/
def ofTexts (texts : List String) : Json := .arr (texts.map .str)

/-- A text, or null. -/
def ofText? (text : Option String) : Json := (text.map Json.str).getD .null

/-- The field of an object, and nothing for any other value. -/
def field? (key : String) (v : Json) : Option Json := v.asFields.bind (Fields.get? key)

end Json

end CodePager
