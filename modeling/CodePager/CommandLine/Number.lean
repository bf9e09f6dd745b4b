import CodePager.Word

/-! # Numbers on the command line

Numbers as a command line writes them: decimal digits behind an optional sign, within the range of
the option. `readNumber` reads one or says what is wrong with it. -/

namespace CodePager.CommandLine

/-- What is wrong with a number. -/
inductive NumberFault where
  | empty
  | badDigit
  | tooLarge
  | tooSmall
  /-- A number outside the range of its option, which starts at zero. -/
  | outside (value : Int) (last : Nat)
  deriving DecidableEq

/-- The wording of a fault. -/
def NumberFault.message : NumberFault → String
  | .empty => "cannot parse integer from empty string"
  | .badDigit => "invalid digit found in string"
  | .tooLarge => "number too large to fit in target type"
  | .tooSmall => "number too small to fit in target type"
  | .outside value last => toString value ++ " is not in 0..=" ++ toString last

/-- Reads digits onto a number that must not exceed `limit`; the first fault from the left
counts. -/
def readDigits (limit : Nat) (excess : NumberFault) : Nat → List Char → Except NumberFault Nat
  | n, [] => .ok n
  | n, c :: cs =>
    if c.isDigit then
      let n := n * 10 + (c.toNat - 0x30)
      if n ≤ limit then readDigits limit excess n cs else .error excess
    else .error .badDigit

/-- Reads a number of 64 bits without a sign. -/
def readUnsigned (text : String) : Except NumberFault Nat :=
  let digits := readDigits maxCount .tooLarge 0
  match text.toList with
  | [] => .error .empty
  | '+' :: c :: cs => digits (c :: cs)
  | cs => digits cs

/-- Reads a number of 64 bits with a sign. -/
def readSigned (text : String) : Except NumberFault Int :=
  let positive := fun (cs : List Char) =>
    (readDigits maxSigned .tooLarge 0 cs).map fun n => (n : Int)
  match text.toList with
  | [] => .error .empty
  | '+' :: c :: cs => positive (c :: cs)
  | '-' :: c :: cs => (readDigits (maxSigned + 1) .tooSmall 0 (c :: cs)).map fun n => -(n : Int)
  | cs => positive cs

/-- Reads a number from zero to `last`, which fits 63 bits. -/
def readWithin (last : Nat) (text : String) : Except NumberFault Nat :=
  match readSigned text with
  | .error e => .error e
  | .ok n => if 0 ≤ n ∧ n ≤ last then .ok n.toNat else .error (.outside n last)

end CodePager.CommandLine
