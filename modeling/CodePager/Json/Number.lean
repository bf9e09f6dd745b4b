import CodePager.Json.Value
import CodePager.Word

/-! # The value of a number literal

A literal without point and exponent is an integer as long as it fits 64 bits. Every other literal
is a double: its digits are collected in a 64-bit significand, the digits that do not fit are
dropped, and the significand is multiplied or divided by one power of ten. `Significand.push` is the
collection, `scaleByTen?` the scaling. -/

namespace CodePager.Json

/-- The digits of a literal that have been collected: their `value`, how many were `kept`, and how
many were `dropped` because the value would not have fitted 64 bits. -/
structure Significand where
  value : Nat
  kept : Nat
  dropped : Nat

/-- No digits yet. -/
def Significand.none : Significand := ⟨0, 0, 0⟩

/-- Adds a digit. Once a digit has been dropped, so is every later one. -/
def Significand.push (s : Significand) (digit : Nat) : Significand :=
  if s.dropped = 0 ∧ s.value * 10 + digit ≤ maxCount then
    ⟨s.value * 10 + digit, s.kept + 1, 0⟩
  else { s with dropped := s.dropped + 1 }

/-- The number of digits read, kept or not. -/
def Significand.length (s : Significand) : Nat := s.kept + s.dropped

/-- The double nearest to a power of ten. -/
def powerOfTen (exponent : Nat) : Float := Float.ofScientific 1 false exponent

/-- The largest exponent of a power of ten that a double can hold. -/
def maxExponent : Nat := 308

/-- A double divided by `10 ^ exponent`, in steps that a double can hold. -/
def divideByTen (x : Float) (exponent : Nat) : Float :=
  if exponent ≤ maxExponent then x / powerOfTen exponent
  else if x == 0 then x
  else divideByTen (x / powerOfTen maxExponent) (exponent - maxExponent)
termination_by exponent
decreasing_by simp_all [maxExponent]; omega

/-- The double for `significand * 10 ^ exponent`, and nothing if it is too large. -/
def scaleByTen? (significand : Nat) (exponent : Int) : Option Float :=
  let x := (UInt64.ofNat significand).toFloat
  if exponent < 0 then some (divideByTen x exponent.natAbs)
  else if exponent.natAbs ≤ maxExponent then
    let y := x * powerOfTen exponent.natAbs
    if y.isInf then none else some y
  else if significand = 0 then some x else none

/-- A double with the sign of its literal. -/
def signed (negative : Bool) (x : Float) : Float := if negative then -x else x

/-- The value of a literal without point and exponent whose digits all fit. A negative integer below
the 64-bit range is a double, and so is `-0`. -/
def ofDigits (negative : Bool) (significand : Nat) : Json :=
  if negative then
    if significand = 0 ∨ maxSigned + 1 < significand then
      .float (-(UInt64.ofNat significand).toFloat)
    else .int (-significand)
  else .int significand

end CodePager.Json
