/-! # The text of a double

A double is written with the fewest digits that read back as the same double, and among those the
nearest (`shortestDigits`). `floatText` lays the digits out: positional from `10 ^ -5` to below
`10 ^ 16`, with at least one digit after the point, and with a signed exponent otherwise. -/

namespace CodePager.Json

/-- A finite double `(-1)^negative * mantissa * 2 ^ exponent`. -/
structure Binary where
  negative : Bool
  mantissa : Nat
  exponent : Int

/-- The bit in front of the fraction of a double, which is not stored. -/
def hiddenBit : Nat := 0x10000000000000

/-- The parts of a finite double. -/
def binaryOf (x : Float) : Binary :=
  let bits : Nat := x.toBits.toNat
  let biased : Nat := (bits >>> 52) % 0x800
  let fraction : Nat := bits % hiddenBit
  { negative := bits >>> 63 == 1
    mantissa := if biased = 0 then fraction else hiddenBit + fraction
    exponent := if biased = 0 then -1074 else (biased : Int) - 1075 }

/-- The number of decimal digits of a natural number; none for zero. -/
def decimalLength (n : Nat) : Nat := if n = 0 then 0 else (Nat.toDigits 10 n).length

/-- The scientific exponent of a positive double: the largest `e` with `10 ^ e ≤ x`. -/
def scientificExponent (b : Binary) : Int :=
  let scaled := b.mantissa * Nat.pow 10 400 * Nat.pow 2 b.exponent.toNat /
    Nat.pow 2 (-b.exponent).toNat
  (decimalLength scaled : Int) - 401

/-- A decimal number `digits * 10 ^ exponent`. -/
structure Decimal where
  digits : Nat
  exponent : Int

/-- The decimal with `count` significant digits that reads back as the double, if there is one: one
of the two neighbours of the double on that grid, the nearer if both do, the even one if they are
equally near. -/
def decimalWith? (b : Binary) (count : Nat) : Option Decimal :=
  let exponent := scientificExponent b - (count - 1 : Nat)
  let quarter := b.exponent - 2
  -- the double is `4 * mantissa` quarter steps, a decimal `d` is `d * scale`, both in a common unit
  let unit := Nat.pow 2 quarter.toNat * Nat.pow 10 (-exponent).toNat
  let scale := Nat.pow 10 exponent.toNat * Nat.pow 2 (-quarter).toNat
  let centre := 4 * b.mantissa * unit
  let reach := if b.mantissa = hiddenBit ∧ b.exponent ≠ -1074 then 1 else 2
  let low := (4 * b.mantissa - reach) * unit
  let high := (4 * b.mantissa + 2) * unit
  let even := b.mantissa % 2 == 0
  let readsBack := fun d : Nat =>
    let v := d * scale
    (low < v || (even && low == v)) && (v < high || (even && v == high))
  let floor := centre / scale
  match readsBack floor, readsBack (floor + 1) with
  | false, false => none
  | true, false => some ⟨floor, exponent⟩
  | false, true => some ⟨floor + 1, exponent⟩
  | true, true =>
    let below := centre - floor * scale
    let above := (floor + 1) * scale - centre
    if below < above || (below == above && floor % 2 == 0) then some ⟨floor, exponent⟩
    else some ⟨floor + 1, exponent⟩

/-- The **shortest decimal** that reads back as a positive double. Seventeen digits always do. -/
def shortestDecimal (b : Binary) : Decimal :=
  ((List.range 17).findSome? fun i => decimalWith? b (i + 1)).getD ⟨0, 0⟩

/-- The digits of a decimal without trailing zeros. -/
def significantDigits (n : Nat) : List Char :=
  ((Nat.toDigits 10 n).reverse.dropWhile (· == '0')).reverse

/-- The digits of a positive double and its scientific exponent. -/
def shortestDigits (b : Binary) : List Char × Int :=
  let d := shortestDecimal b
  (significantDigits d.digits, (decimalLength d.digits : Int) - 1 + d.exponent)

/-- Digits with the point after the first `1 + exponent` of them, filled up with zeros. -/
def positional (digits : List Char) (exponent : Int) : List Char :=
  if exponent < 0 then
    '0' :: '.' :: (List.replicate (exponent.natAbs - 1) '0' ++ digits)
  else
    let whole := exponent.toNat + 1
    let fraction := digits.drop whole
    digits.take whole ++ List.replicate (whole - digits.length) '0' ++
      ('.' :: if fraction.isEmpty then ['0'] else fraction)

/-- Digits with the point after the first and a signed exponent. -/
def scientific (digits : List Char) (exponent : Int) : List Char :=
  digits.take 1 ++ (if digits.length ≤ 1 then [] else '.' :: digits.drop 1) ++
    ('e' :: (if exponent < 0 then '-' else '+') :: (toString exponent.natAbs).toList)

/-- The **text of a double** in JSON. -/
def floatText (x : Float) : String :=
  let b := binaryOf x
  let sign := if b.negative then ['-'] else []
  String.ofList <| sign ++
    if b.mantissa = 0 then ['0', '.', '0']
    else
      let (digits, exponent) := shortestDigits b
      if -5 ≤ exponent ∧ exponent ≤ 15 then positional digits exponent
      else scientific digits exponent

end CodePager.Json
