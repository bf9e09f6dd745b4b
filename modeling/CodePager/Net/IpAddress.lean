/-! # Written addresses

The written forms of internet addresses: four decimal numbers with points, eight hexadecimal groups
with colons, of which a run of zeros may be left out, and either with a port behind it
(`isSocketAddress`). Every reader takes an address off the front of a text and gives the rest. -/

namespace CodePager.Net

/-- The value of a digit in a base of at most sixteen. -/
def digitIn? (base : Nat) (c : Char) : Option Nat :=
  let value :=
    if '0' ≤ c && c ≤ '9' then some (c.toNat - 0x30)
    else if 'a' ≤ c && c ≤ 'f' then some (c.toNat - 0x57)
    else if 'A' ≤ c && c ≤ 'F' then some (c.toNat - 0x37)
    else none
  value.filter (· < base)

/-- The value of a list of digits. -/
def valueOf (base : Nat) (digits : List Char) : Nat :=
  digits.foldl (fun n c => n * base + (digitIn? base c).getD 0) 0

/-- Takes the longest number off the front: at least one digit. -/
def takeNumber? (base : Nat) (s : List Char) : Option (List Char × List Char) :=
  let digits := s.takeWhile fun c => (digitIn? base c).isSome
  if digits.isEmpty then none else some (digits, s.dropWhile fun c => (digitIn? base c).isSome)

/-- Takes one number of a dotted address: at most 255, without leading zeros. -/
def takeOctet? (s : List Char) : Option (List Char) :=
  match takeNumber? 10 s with
  | some (digits, rest) =>
    if digits.length ≤ 3 ∧ valueOf 10 digits ≤ 255 ∧ (digits.head? = some '0' → digits.length = 1)
    then some rest else none
  | none => none

/-- Takes a number of a dotted address behind its point. -/
def takeDottedOctet? (s : List Char) : Option (List Char) :=
  match s with
  | '.' :: r => takeOctet? r
  | _ => none

/-- Takes an address of four numbers off the front. -/
def takeIpv4? (s : List Char) : Option (List Char) :=
  (((takeOctet? s).bind takeDottedOctet?).bind takeDottedOctet?).bind takeDottedOctet?

/-- Takes one group of hexadecimal digits: at most four. -/
def takeGroup? (s : List Char) : Option (List Char) :=
  match takeNumber? 16 s with
  | some (digits, rest) => if digits.length ≤ 4 then some rest else none
  | none => none

/-- Takes at most `limit` groups off the front, all but the first behind a colon, the last two
possibly as a dotted address. The result is the number of groups, whether they end in a dotted
address, and the rest. -/
def takeGroups : Nat → Nat → List Char → Nat × Bool × List Char
  | 0, taken, s => (taken, false, s)
  | limit + 1, taken, s =>
    let behindColon :=
      if taken = 0 then some s
      else
        match s with
        | ':' :: r => some r
        | _ => none
    match behindColon with
    | none => (taken, false, s)
    | some r =>
      match if limit = 0 then none else takeIpv4? r with
      | some rest => (taken + 2, true, rest)
      | none =>
        match takeGroup? r with
        | some rest => takeGroups limit (taken + 1) rest
        | none => (taken, false, s)

/-- Takes an address of eight groups off the front; two colons stand for the groups left out, at
least one. -/
def takeIpv6? (s : List Char) : Option (List Char) :=
  let (taken, dotted, rest) := takeGroups 8 0 s
  if taken = 8 then some rest
  else if dotted then none
  else
    match rest with
    | ':' :: ':' :: r => some (takeGroups (7 - taken) 0 r).2.2
    | _ => none

/-- Whether a text is a colon and a port number. -/
def isPortSuffix (s : List Char) : Bool :=
  match s with
  | ':' :: r =>
    match takeNumber? 10 r with
    | some (digits, []) => valueOf 10 digits ≤ 65535
    | _ => false
  | _ => false

/-- The text behind a scope, a percent sign and a 32-bit number, if there is one. -/
def skipScope (s : List Char) : List Char :=
  match s with
  | '%' :: r =>
    match takeNumber? 10 r with
    | some (digits, rest) => if valueOf 10 digits < 0x100000000 then rest else s
    | none => s
  | _ => s

/-- Whether a text is **an address and a port**: `127.0.0.1:80` or `[::1]:80`. -/
def isSocketAddress (text : String) : Bool :=
  match text.toList with
  | '[' :: r =>
    match takeIpv6? r with
    | some rest =>
      match skipScope rest with
      | ']' :: rest => isPortSuffix rest
      | _ => false
    | none => false
  | s =>
    match takeIpv4? s with
    | some rest => isPortSuffix rest
    | none => false

end CodePager.Net
