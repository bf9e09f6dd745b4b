import CodePager.Json.Value
import CodePager.Text.Lines

/-! # Units

What a result is paged by: the lines of a text or the records of a list. `Units.slice` takes the
content of a range of units, `Units.content` the content of all; `content_ofText` says that this is
the text again. -/

namespace CodePager

/-- What a unit is. -/
inductive UnitKind where
  | line
  | record
  deriving DecidableEq

/-- The name of a kind of unit. -/
def UnitKind.name : UnitKind → String
  | .line => "line"
  | .record => "record"

/-- The content of a range of units: lines make up a text, records a list. -/
inductive Content where
  | text (body : String)
  | records (items : List Json)

/-- A content as a value. -/
def Content.toJson : Content → Json
  | .text s => .str s
  | .records items => .arr items

/-- The units of a result. -/
inductive Units where
  /-- Lines with their line feeds. -/
  | lines (lines : List String)
  | records (items : List Json)

namespace Units

/-- The lines of a text. -/
def ofText (text : String) : Units := .lines (Text.lines text)

/-- The number of units. -/
def length : Units → Nat
  | .lines ls => ls.length
  | .records items => items.length

/-- The kind of the units. -/
def kind : Units → UnitKind
  | .lines _ => .line
  | .records _ => .record

/-- The content of the units from `start` up to but without `stop`, counted from zero. -/
def slice (units : Units) (start stop : Nat) : Content :=
  match units with
  | .lines ls => .text (String.join ((ls.drop start).take (stop - start)))
  | .records items => .records ((items.drop start).take (stop - start))

/-- The whole content. -/
def content (units : Units) : Content := units.slice 0 units.length

/-- The content of the lines of a text is the text. -/
theorem content_ofText (text : String) : (ofText text).content = .text text := by
  simp [ofText, content, slice, length, Text.join_lines]

/-- The content of records is their list. -/
theorem content_records (items : List Json) : (records items).content = .records items := by
  simp [content, slice, length]

end Units

end CodePager
