import CodePager.Backend.Payload
import Mathlib.Tactic.Common

/-! # The shape of an object

What of an object is paged, told without the way in which it is found: the text at the end of a
chain of text fields (`LeadsTo`), and of several the one that is reached by the deciding names
(`FirstText`). **An object is shaped by its text, else by its first list, else it stays what it is**
(`Payload.shape_obj`); testing for a text and taking it out agree at every level. -/

namespace CodePager

/-- A property of values passes from the fields of objects to all values. -/
theorem Json.induction_fields {P : Json → Prop} (leaf : ∀ v, v.asFields = none → P v)
    (obj : ∀ fields, (∀ name v, Fields.get? name fields = some v → P v) → P (.obj fields))
    (v : Json) : P v := by
  induction hsize : sizeOf v using Nat.strongRecOn generalizing v with
  | _ size ih =>
    cases v with
    | obj fields =>
      refine obj fields fun name v hget => ih (sizeOf v) ?_ v rfl
      have hlt := Fields.sizeOf_lt_of_get? hget
      rw [← hsize, Json.obj.sizeOf_spec]
      omega
    | _ => exact leaf _ rfl

/-! ### Chains of text fields -/

/-- A chain of text fields **leads** through nested objects **to** a string. -/
inductive LeadsTo : List String → Json → String → Prop
  | string (s : String) : LeadsTo [] (.str s) s
  | field {name : String} {names : List String} {fields : List (String × Json)} {v : Json}
      {s : String} (hname : name ∈ textFields) (hget : Fields.get? name fields = some v)
      (hrest : LeadsTo names v s) : LeadsTo (name :: names) (.obj fields) s

/-- Some chain of text fields leads from a value to a string. -/
def HasText (v : Json) : Prop := ∃ names s, LeadsTo names v s

/-- The string that is reached by taking, at each object, **the first text field whose value has
text**. -/
inductive FirstText : Json → String → Prop
  | string (s : String) : FirstText (.str s) s
  | field {fields : List (String × Json)} {before after : List String} {name : String} {v : Json}
      {s : String} (hnames : textFields = before ++ name :: after)
      (hbefore : ∀ other ∈ before, ∀ w, Fields.get? other fields = some w → ¬ HasText w)
      (hget : Fields.get? name fields = some v) (hrest : FirstText v s) : FirstText (.obj fields) s

/-- What the deciding names lead to is a text: the names on the way are a chain. -/
theorem FirstText.hasText {v : Json} {s : String} (h : FirstText v s) : HasText v := by
  induction h with
  | string s => exact ⟨[], s, .string s⟩
  | @field _ _ _ name _ _ hnames _ hget _ ih =>
    obtain ⟨names, s, hrest⟩ := ih
    have hname : name ∈ textFields := by
      rw [hnames]
      exact List.mem_append_right _ List.mem_cons_self
    exact ⟨name :: names, s, .field hname hget hrest⟩

/-! ### Testing for a text -/

/-- An object carries a text if **one of the text fields** does. -/
theorem carriesText_obj (fields : List (String × Json)) :
    carriesText (.obj fields) =
      textFields.any fun name => (Fields.get? name fields).any carriesText := by
  rw [carriesText]
  congr 1
  funext name
  split <;> simp_all

/-- A value that is no object has text only if it is a string. -/
theorem hasText_of_asFields_eq_none {v : Json} (h : v.asFields = none) :
    HasText v ↔ v.isText = true := by
  cases v with
  | str s => exact ⟨fun _ => rfl, fun _ => ⟨[], s, .string s⟩⟩
  | obj fields => cases h
  | _ =>
    constructor
    · rintro ⟨names, s, hchain⟩
      cases hchain
    · intro htext
      cases htext

/-- A value **carries text exactly if some chain leads to one**. -/
theorem carriesText_iff (v : Json) : carriesText v = true ↔ HasText v := by
  induction v using Json.induction_fields with
  | leaf v hleaf =>
    rw [hasText_of_asFields_eq_none hleaf]
    cases v with
    | obj fields => cases hleaf
    | _ => simp [carriesText, Json.isText, Json.asText]
  | obj fields ih =>
    rw [carriesText_obj, List.any_eq_true]
    constructor
    · rintro ⟨name, hname, hany⟩
      obtain ⟨v, hget, hcarries⟩ := (Option.any_eq_true _ _).mp hany
      obtain ⟨names, s, hrest⟩ := (ih name v hget).mp hcarries
      exact ⟨name :: names, s, .field hname hget hrest⟩
    · rintro ⟨names, s, hchain⟩
      cases hchain with
      | @field name names _ v _ hname hget hrest =>
        have hcarries : carriesText v = true := (ih name v hget).mpr ⟨names, s, hrest⟩
        exact ⟨name, hname, (Option.any_eq_true _ _).mpr ⟨v, hget, hcarries⟩⟩

/-- An object has a deciding text field exactly if it carries text. -/
theorem isSome_textField? (fields : List (String × Json)) :
    (textField? fields).isSome = carriesText (.obj fields) := by
  rw [Bool.eq_iff_iff, textField?, List.find?_isSome, carriesText_obj, List.any_eq_true]

/-- **The deciding text field** is the first one whose value has text. -/
theorem textField?_eq_some_iff (fields : List (String × Json)) (name : String) :
    textField? fields = some name ↔
      (∃ v, Fields.get? name fields = some v ∧ HasText v) ∧
        ∃ before after, textFields = before ++ name :: after ∧
          ∀ other ∈ before, ∀ w, Fields.get? other fields = some w → ¬ HasText w := by
  simp only [textField?, List.find?_eq_some_iff_append, Option.any_eq_true,
    Bool.not_eq_true', Option.any_eq_false, ← carriesText_iff, Bool.not_eq_true]

/-! ### Taking the text out -/

/-- What is taken out of a value: a string as such, and of an object what is taken out of it. -/
def taken? : Json → Option String
  | .str s => some s
  | .obj fields => (takeText fields).1
  | _ => none

/-- Where no text field decides **nothing is taken**: `takeText fields = (none, fields)`. -/
theorem takeText_of_none {fields : List (String × Json)} (h : textField? fields = none) :
    takeText fields = (none, fields) := by
  rw [takeText]
  simp only [h]

/-- The deciding text field is **taken out**, with what is taken of its value. -/
theorem takeText_of_some {fields : List (String × Json)} {name : String}
    (h : textField? fields = some name) :
    takeText fields = ((Fields.get? name fields).bind taken?, Fields.erase name fields) := by
  rw [takeText]
  simp only [h]
  split
  · rename_i s hget
    rw [hget]
    rfl
  · rename_i inner hget
    rw [hget]
    rfl
  · -- Neither a string nor an object: nothing is taken, though the field is gone.
    rename_i hstr hobj
    cases hget : Fields.get? name fields with
    | none => rfl
    | some v =>
      cases v with
      | str s => exact absurd hget (hstr s)
      | obj inner => exact absurd hget (hobj inner)
      | _ => rfl

/-- **What is taken** out of a value is the string that the deciding names lead to. -/
theorem taken?_eq_some_iff (v : Json) (s : String) : taken? v = some s ↔ FirstText v s := by
  induction v using Json.induction_fields with
  | leaf v hleaf =>
    cases v with
    | str t =>
      constructor
      · intro h
        obtain rfl := Option.some.inj h
        exact .string t
      · intro h
        cases h
        rfl
    | obj fields => cases hleaf
    | _ =>
      constructor
      · intro h
        cases h
      · intro h
        cases h
  | obj fields ih =>
    -- Both sides go by the same field of the object, and then by its value.
    constructor
    · intro h
      cases hname : textField? fields with
      | none =>
        rw [taken?, takeText_of_none hname] at h
        cases h
      | some name =>
        rw [taken?, takeText_of_some hname] at h
        obtain ⟨v, hget, htaken⟩ := Option.bind_eq_some_iff.mp h
        obtain ⟨-, before, after, hnames, hbefore⟩ := (textField?_eq_some_iff fields name).mp hname
        exact .field hnames hbefore hget ((ih name v hget).mp htaken)
    · intro h
      cases h with
      | @field _ before after name v _ hnames hbefore hget hrest =>
        have hname : textField? fields = some name :=
          (textField?_eq_some_iff fields name).mpr
            ⟨⟨v, hget, hrest.hasText⟩, before, after, hnames, hbefore⟩
        rw [taken?, takeText_of_some hname, hget]
        exact (ih name v hget).mpr hrest

/-- Where some chain leads to a text, the deciding names lead to one. -/
theorem HasText.exists_firstText {v : Json} (h : HasText v) : ∃ s, FirstText v s := by
  induction v using Json.induction_fields with
  | leaf v hleaf =>
    have htext := (hasText_of_asFields_eq_none hleaf).mp h
    cases v with
    | str s => exact ⟨s, .string s⟩
    | _ => cases htext
  | obj fields ih =>
    have hsome : (textField? fields).isSome = true := by
      rw [isSome_textField?, carriesText_iff]
      exact h
    obtain ⟨name, hname⟩ := Option.isSome_iff_exists.mp hsome
    obtain ⟨⟨v, hget, hv⟩, before, after, hnames, hbefore⟩ :=
      (textField?_eq_some_iff fields name).mp hname
    obtain ⟨s, hfirst⟩ := ih name v hget hv
    exact ⟨s, .field hnames hbefore hget hfirst⟩

/-- Taking the text out **succeeds exactly if the object carries text**. -/
theorem isSome_takeText (fields : List (String × Json)) :
    (takeText fields).1.isSome = carriesText (.obj fields) := by
  rw [Bool.eq_iff_iff, carriesText_iff, Option.isSome_iff_exists]
  constructor
  · rintro ⟨s, hs⟩
    exact ((taken?_eq_some_iff (.obj fields) s).mp hs).hasText
  · intro h
    obtain ⟨s, hs⟩ := h.exists_firstText
    exact ⟨s, (taken?_eq_some_iff (.obj fields) s).mpr hs⟩

/-- If no text is taken out, **no field is missing**. -/
theorem takeText_snd_of_none {fields : List (String × Json)} (h : (takeText fields).1 = none) :
    (takeText fields).2 = fields := by
  have hnone : textField? fields = none := by
    rw [← Option.not_isSome_iff_eq_none, isSome_textField?, ← isSome_takeText, h]
    exact Bool.false_ne_true
  rw [takeText_of_none hnone]

/-! ### Main result -/

namespace Payload

/-- The text that is taken out of an object is its shape. -/
theorem shape_obj_of_some {fields : List (String × Json)} {s : String}
    (h : (takeText fields).1 = some s) : (json (.obj fields)).shape = .text s := by
  rw [shape]
  split
  · rename_i t left htake
    rw [htake] at h
    rw [Option.some.inj h]
  · rename_i left htake
    rw [htake] at h
    cases h

/-- Without a text an object is **the list of its first array**, or inline if it has none. -/
theorem shape_obj_of_none {fields : List (String × Json)} (h : (takeText fields).1 = none) :
    (json (.obj fields)).shape =
      match fields.findSome? fun f => f.2.asItems with
      | some items => .records items
      | none => .inline (.obj fields) := by
  have htake : takeText fields = (none, fields) := Prod.ext h (takeText_snd_of_none h)
  rw [shape]
  split
  · rename_i s left hsome
    rw [htake] at hsome
    cases hsome
  · rename_i left hnone
    rw [htake] at hnone
    cases hnone
    rfl

/-- The shape of an object is **the text that the deciding names lead to**, if they lead to one. -/
theorem shape_obj_eq_text_iff (fields : List (String × Json)) (s : String) :
    (json (.obj fields)).shape = .text s ↔ FirstText (.obj fields) s := by
  rw [← taken?_eq_some_iff, taken?]
  constructor
  · intro h
    cases htake : (takeText fields).1 with
    | some t =>
      rw [shape_obj_of_some htake] at h
      rw [Shape.text.inj h]
    | none =>
      rw [shape_obj_of_none htake] at h
      split at h <;> cases h
  · exact shape_obj_of_some

/-- Fields without an array among them have no items. -/
theorem findSome?_asItems_eq_none {fields : List (String × Json)}
    (h : ∀ f ∈ fields, ∀ items, f.2 ≠ .arr items) :
    (fields.findSome? fun f => f.2.asItems) = none := by
  refine List.findSome?_eq_none_iff.mpr fun f hf => ?_
  cases hv : f.2 with
  | arr items => exact absurd hv (h f hf items)
  | _ => rfl

/-- **The shape of an object**, however deeply nested. It is a text exactly if a chain of text
fields leads to a string, and then the string that the deciding names lead to; taking the text out
succeeds exactly if testing for it does, and leaves every field where it fails. Without a text the
shape is the first list among the fields, and without a list the object as it is. -/
theorem shape_of_object (fields : List (String × Json)) :
    let shape := (json (.obj fields)).shape
    ((∃ s, shape = .text s) ↔ ∃ names s, LeadsTo names (.obj fields) s) ∧
      (∀ s, shape = .text s ↔ FirstText (.obj fields) s) ∧
      (takeText fields).1.isSome = carriesText (.obj fields) ∧
      ((takeText fields).1 = none → (takeText fields).2 = fields) ∧
      ((¬ ∃ names s, LeadsTo names (.obj fields) s) →
        (∀ before key items after, fields = before ++ (key, .arr items) :: after →
          (∀ f ∈ before, ∀ others, f.2 ≠ .arr others) → shape = .records items) ∧
        ((∀ f ∈ fields, ∀ items, f.2 ≠ .arr items) → shape = .inline (.obj fields))) := by
  intro shape
  refine ⟨?isText, shape_obj_eq_text_iff fields, isSome_takeText fields, takeText_snd_of_none,
    fun hno => ?otherwise⟩
  case isText =>
    constructor
    · rintro ⟨s, hs⟩
      exact ((shape_obj_eq_text_iff fields s).mp hs).hasText
    · intro h
      obtain ⟨s, hs⟩ := HasText.exists_firstText h
      exact ⟨s, (shape_obj_eq_text_iff fields s).mpr hs⟩
  case otherwise =>
    have hnone : (takeText fields).1 = none := by
      rw [← Option.not_isSome_iff_eq_none, isSome_takeText, carriesText_iff]
      exact hno
    have hshape : shape = _ := shape_obj_of_none hnone
    constructor
    · rintro before key items after hfields hbefore
      have hfirst : (fields.findSome? fun f => f.2.asItems) = some items := by
        rw [hfields, List.findSome?_append, findSome?_asItems_eq_none hbefore]
        rfl
      rw [hshape, hfirst]
    · intro hall
      rw [hshape, findSome?_asItems_eq_none hall]

-- `code` comes first by its name but leads to no text, and `text` only by its place.
example :
    (json (.obj [("text", .str "b"), ("code", .obj [("name", .str "x")]),
      ("content", .obj [("source", .str "a")])])).shape = .text "a" := by
  cbv

end Payload

end CodePager
