import CodePager.Backend.Route
import CodePager.Json.Value

/-! # Pages of the backend

A route that answers page by page wraps each page in an envelope: an object with a `pagination`
object beside its data. The envelope is the answer itself or lies under one of its fields.
`Envelope.find?` takes it apart, `assemble` joins the items of all pages into one value. -/

namespace CodePager

/-- One page as the backend answered it. -/
structure Envelope where
  items : List Json
  currentPage : Nat
  totalPages : Nat
  pageSize : Option Nat

namespace Envelope

/-- The `pagination` object of an object, if it has one. -/
def pagination? (fields : List (String × Json)) : Option (List (String × Json)) :=
  (Fields.get? "pagination" fields).bind Json.asFields

/-- Whether an object is an envelope. -/
def isEnvelope (fields : List (String × Json)) : Bool := (pagination? fields).isSome

/-- A whole number of the `pagination` object. -/
def number? (fields : List (String × Json)) (key : String) : Option Nat :=
  ((pagination? fields).bind (Fields.get? key)).bind Json.asCount

/-- The numbers of a `pagination` object fit 64 bits. -/
theorem number?_le_maxCount {fields : List (String × Json)} {key : String} {n : Nat}
    (h : number? fields key = some n) : n ≤ maxCount := by
  obtain ⟨v, -, hv⟩ := Option.bind_eq_some_iff.mp h
  exact Json.asCount_le_maxCount hv

/-- The items of an envelope: the array under `data`, or else its first array. -/
def itemsOf (fields : List (String × Json)) : List Json :=
  match (Fields.get? "data" fields).bind Json.asItems with
  | some items => items
  | none => (fields.findSome? fun f => f.2.asItems).getD []

/-- Takes an envelope apart. Page numbers default to one, a page size of zero counts as none. -/
def ofFields (fields : List (String × Json)) : Envelope :=
  { items := itemsOf fields
    currentPage := (number? fields "current_page").getD 1
    totalPages := (number? fields "total_pages").getD 1
    pageSize := (number? fields "page_size").filter (0 < ·) }

/-- The **envelope of an answer**: the answer itself, or the first of its fields that is one. -/
def find? (body : Json) : Option Envelope :=
  match body with
  | .obj fields =>
    if isEnvelope fields then some (ofFields fields)
    else
      ((fields.filterMap fun f => f.2.asFields).find? isEnvelope).map ofFields
  | _ => none

/-- Whether pages follow. -/
def hasMore (e : Envelope) : Bool := e.currentPage < e.totalPages

end Envelope

/-- The items of all pages as **one value**: a text of the chunks that are texts, or a list of the
items. -/
def assemble : PageUnit → List Json → Json
  | .chars, items => .str (String.join (items.filterMap Json.asText))
  | .items, items => .arr items

end CodePager
