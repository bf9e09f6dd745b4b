import CodePager.Json.FloatText
import CodePager.Json.Value
import CodePager.Text.Quoted

/-! # Values that do not fit

Why a JSON value cannot be read as what is expected, and the wording of that. -/

namespace CodePager

/-- What a value is called in messages. -/
def Json.describe : Json → String
  | .null => "null"
  | .bool b => "boolean `" ++ (if b then "true" else "false") ++ "`"
  | .int n => "integer `" ++ toString n ++ "`"
  | .float x => "floating point `" ++ Json.floatText x ++ "`"
  | .str s => "string " ++ Text.quoted s
  | .arr _ => "sequence"
  | .obj _ => "map"

/-- Why a value cannot be read. -/
inductive DecodeError where
  | missingField (field : String)
  /-- A field that is given twice, under the same name or under two of its names. -/
  | duplicateField (field : String)
  | invalidType (found : Json) (expected : String)
  | invalidValue (found : Json) (expected : String)
  | unknownVariant (found : String) (expected : List String)

/-- The wording of a value that cannot be read. -/
def DecodeError.message : DecodeError → String
  | .missingField field => "missing field `" ++ field ++ "`"
  | .duplicateField field => "duplicate field `" ++ field ++ "`"
  | .invalidType found expected => "invalid type: " ++ found.describe ++ ", expected " ++ expected
  | .invalidValue found expected => "invalid value: " ++ found.describe ++ ", expected " ++ expected
  | .unknownVariant found expected =>
    "unknown variant `" ++ found ++ "`, expected one of " ++
      String.intercalate ", " (expected.map fun v => "`" ++ v ++ "`")

end CodePager
