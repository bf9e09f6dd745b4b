import CodePager.Json.FloatText
import CodePager.Json.Value

/-! # Printing JSON

The two written forms of a value: `compact`, without any blank, and `pretty`, with one item or field
a line and two blanks for each level. Both escape the quote, the backslash and the control
characters and nothing else. -/

namespace CodePager.Json

/-- A control character as an escape of four hexadecimal digits. -/
def controlEscape (c : Char) : String :=
  "\\u00" ++ String.ofList [Nat.digitChar (c.toNat / 16), Nat.digitChar (c.toNat % 16)]

/-- A character as it stands in a JSON string. -/
def escapedChar (c : Char) : String :=
  if c = '"' then "\\\""
  else if c = '\\' then "\\\\"
  else if c = '\x08' then "\\b"
  else if c = '\x0c' then "\\f"
  else if c = '\n' then "\\n"
  else if c = '\r' then "\\r"
  else if c = '\t' then "\\t"
  else if c.toNat < 0x20 then controlEscape c
  else c.toString

/-- A text as a JSON string. -/
def quotedText (s : String) : String :=
  "\"" ++ s.foldl (fun out c => out ++ escapedChar c) "" ++ "\""

/-- The text of a value that is neither an array nor an object. -/
def scalarText : Json → String
  | .null => "null"
  | .bool b => if b then "true" else "false"
  | .int n => toString n
  | .float x => floatText x
  | .str s => quotedText s
  | .arr _ => "[]"
  | .obj _ => "\x7b\x7d"

mutual

/-- The pieces of the written form of a value without blanks. -/
def compactPieces : Json → List String
  | .arr [] => ["[]"]
  | .arr (v :: vs) => "[" :: compactPieces v ++ compactItems vs
  | .obj [] => ["\x7b\x7d"]
  | .obj ((k, v) :: fs) => "\x7b" :: quotedText k :: ":" :: compactPieces v ++ compactFields fs
  | v => [scalarText v]

/-- The pieces of the items behind the first, with the closing bracket. -/
def compactItems : List Json → List String
  | [] => ["]"]
  | v :: vs => "," :: compactPieces v ++ compactItems vs

/-- The pieces of the fields behind the first, with the closing brace. -/
def compactFields : List (String × Json) → List String
  | [] => ["\x7d"]
  | (k, v) :: fs => "," :: quotedText k :: ":" :: compactPieces v ++ compactFields fs

end

/-- The written form of a value **without blanks**. -/
def compact (v : Json) : String := String.join (compactPieces v)

/-- A line feed and the blanks of a level. -/
def newLine (level : Nat) : String := "\n" ++ String.ofList (List.replicate (2 * level) ' ')

mutual

/-- The pieces of the written form of a value with one item or field a line. -/
def prettyPieces (level : Nat) : Json → List String
  | .arr [] => ["[]"]
  | .arr (v :: vs) =>
    "[" :: newLine (level + 1) :: prettyPieces (level + 1) v ++ prettyItems level vs
  | .obj [] => ["\x7b\x7d"]
  | .obj ((k, v) :: fs) =>
    "\x7b" :: newLine (level + 1) :: quotedText k :: ": " :: prettyPieces (level + 1) v ++
      prettyFields level fs
  | v => [scalarText v]

/-- The pieces of the items behind the first, with the closing bracket. -/
def prettyItems (level : Nat) : List Json → List String
  | [] => [newLine level, "]"]
  | v :: vs => "," :: newLine (level + 1) :: prettyPieces (level + 1) v ++ prettyItems level vs

/-- The pieces of the fields behind the first, with the closing brace. -/
def prettyFields (level : Nat) : List (String × Json) → List String
  | [] => [newLine level, "\x7d"]
  | (k, v) :: fs =>
    "," :: newLine (level + 1) :: quotedText k :: ": " :: prettyPieces (level + 1) v ++
      prettyFields level fs

end

/-- The written form of a value **with one item or field a line**. -/
def pretty (v : Json) : String := String.join (prettyPieces 0 v)

end CodePager.Json
