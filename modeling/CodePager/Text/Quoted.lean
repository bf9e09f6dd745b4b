import CodePager.Text.Printable

/-! # Quoted text

A text between double quotes, as error messages show it. `quoted` escapes the quote and the
backslash, writes the usual letters for tab, line feed, carriage return and NUL, and the code point
in braces for any other character that does not print by itself. -/

namespace CodePager.Text

/-- The lower-case hexadecimal digits of a number, without leading zeros. -/
def hexDigits (n : Nat) : String := String.ofList (Nat.toDigits 16 n)

/-- A character as it stands inside a quoted text. -/
def quotedChar (c : Char) : String :=
  if c == '\x00' then "\\0"
  else if c == '\t' then "\\t"
  else if c == '\r' then "\\r"
  else if c == '\n' then "\\n"
  else if c == '"' then "\\\""
  else if c == '\\' then "\\\\"
  else if isPrintable c then c.toString
  else "\\u\x7b" ++ hexDigits c.toNat ++ "\x7d"

/-- A text **between double quotes**, escaped so that it stays on one line. -/
def quoted (s : String) : String := "\"" ++ String.join (s.toList.map quotedChar) ++ "\""

end CodePager.Text
