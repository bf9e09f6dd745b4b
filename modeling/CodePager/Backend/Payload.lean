import CodePager.Json.Reader

/-! # Payloads

What a request brings back: a JSON value, or a text that is no JSON. `Payload.shape` decides what of
it can be paged: a text, a list of records, or nothing. Objects carry their text under one of six
field names, possibly nested; `carriesText` tests for it, `takeText` takes it out. -/

namespace CodePager

/-- The body of an answer. -/
inductive Payload where
  | json (value : Json)
  | text (body : String)

/-- What a payload offers to page through. -/
inductive Shape where
  /-- A text, paged by lines. -/
  | text (body : String)
  /-- A list, paged by items. -/
  | records (items : List Json)
  /-- Nothing; the value is shown as it is. -/
  | inline (value : Json)

/-- The fields that carry the text of an answer, the deciding one first. -/
def textFields : List String := ["code", "content", "source", "smali", "text", "response"]

/-- Whether a value **carries text**: it is a string, or an object with a text field that carries
text. -/
def carriesText : Json → Bool
  | .str _ => true
  | .obj fields =>
    textFields.any fun name =>
      match _hv : Fields.get? name fields with
      | some v => carriesText v
      | none => false
  | _ => false
termination_by v => sizeOf v
decreasing_by
  have := Fields.sizeOf_lt_of_get? _hv
  simp only [Json.obj.sizeOf_spec]
  omega

/-- The first of the `textFields` whose value carries text. -/
def textField? (fields : List (String × Json)) : Option String :=
  textFields.find? fun name => (Fields.get? name fields).any carriesText

/-- **Takes the text out** of an object: the text, if there is one, and the fields that are left. -/
def takeText (fields : List (String × Json)) : Option String × List (String × Json) :=
  match textField? fields with
  | none => (none, fields)
  | some name =>
    let left := Fields.erase name fields
    match _hv : Fields.get? name fields with
    | some (.str s) => (some s, left)
    | some (.obj inner) => ((takeText inner).1, left)
    | _ => (none, left)
termination_by sizeOf fields
decreasing_by
  have := Fields.sizeOf_lt_of_get? _hv
  simp only [Json.obj.sizeOf_spec] at this
  omega

namespace Payload

/-- A body is JSON if it reads as such, and a text otherwise. -/
def ofBody (body : String) : Payload :=
  match Json.parse body with
  | .ok v => .json v
  | .error _ => .text body

/-- The error that an answer reports in a string field `error`. -/
def error? : Payload → Option String
  | .json (.obj fields) => (Fields.get? "error" fields).bind Json.asText
  | _ => none

/-- A payload as one value. -/
def toJson : Payload → Json
  | .json v => v
  | .text s => .str s

/-- **What can be paged** of a payload: a text if it carries one, else the first list of an object
or the list itself, else nothing. -/
def shape : Payload → Shape
  | .text s => .text s
  | .json (.str s) => .text s
  | .json (.arr items) => .records items
  | .json (.obj fields) =>
    match takeText fields with
    | (some s, _) => .text s
    | (none, left) =>
      match left.findSome? fun f => f.2.asItems with
      | some items => .records items
      | none => .inline (.obj left)
  | .json v => .inline v

end Payload

end CodePager
