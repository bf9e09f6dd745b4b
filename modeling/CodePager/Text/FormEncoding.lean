/-! # Form encoding

The text of a list of name-value pairs as `application/x-www-form-urlencoded`: letters, digits and
`*-._` stand for themselves, a space is a plus sign, and every other byte of the UTF-8 form is a
percent sign and two capital hexadecimal digits. `formEncode` writes one name or value, `formPairs`
a list of pairs. -/

namespace CodePager.Text

/-- The bytes that stand for themselves in a form. -/
def isFormLiteral (b : UInt8) : Bool :=
  (0x30 ≤ b && b ≤ 0x39) || (0x41 ≤ b && b ≤ 0x5A) || (0x61 ≤ b && b ≤ 0x7A) ||
    b == 0x2A || b == 0x2D || b == 0x2E || b == 0x5F

/-- A capital hexadecimal digit. -/
def capitalHexDigit (n : Nat) : Char :=
  if n < 10 then Char.ofNat (0x30 + n) else Char.ofNat (0x37 + n)

/-- One byte of a form. -/
def formByte (b : UInt8) : List Char :=
  if b == 0x20 then ['+']
  else if isFormLiteral b then [Char.ofNat b.toNat]
  else ['%', capitalHexDigit (b.toNat / 16), capitalHexDigit (b.toNat % 16)]

/-- A name or a value **as a form writes it**. -/
def formEncode (s : String) : String := String.ofList (s.toUTF8.toList.flatMap formByte)

/-- A list of pairs as a form: `name=value`, joined by ampersands. -/
def formPairs (pairs : List (String × String)) : String :=
  String.intercalate "&" (pairs.map fun p => formEncode p.1 ++ "=" ++ formEncode p.2)

end CodePager.Text
