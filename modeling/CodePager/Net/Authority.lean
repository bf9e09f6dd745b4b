import CodePager.Net.IpAddress

/-! # Hosts in addresses

Which texts can stand for a host and port in an HTTP address. A host in square brackets must be a
written IPv6 address; any other must be free of the characters that delimit the parts of an address,
and must be a written IPv4 address if its last label is a number. -/

namespace CodePager.Net

/-- The characters that no host name holds. -/
def isForbiddenInHost (c : Char) : Bool :=
  c.toNat ≤ 0x20 || c.toNat == 0x7F || "#/:<>?@[\\]^|%".toList.contains c

/-- The value of a number as a label of an address writes it: hexadecimal behind `0x`, octal behind
`0`, else decimal. -/
def labelNumber? (label : List Char) : Option Nat :=
  let digits? := fun (base : Nat) (digits : List Char) =>
    if digits.all fun c => (digitIn? base c).isSome then some (valueOf base digits) else none
  match label with
  | [] => none
  | '0' :: 'x' :: digits => digits? 16 digits
  | '0' :: 'X' :: digits => digits? 16 digits
  | '0' :: d :: digits => digits? 8 (d :: digits)
  | _ => digits? 10 label

/-- Whether a label is a number or looks like one. -/
def isNumericLabel (label : List Char) : Bool :=
  (!label.isEmpty && label.all Char.isDigit) || (labelNumber? label).isSome

/-- Whether labels are an address of one to four numbers, of which the last fills what the others
leave. -/
def isNumberAddress (labels : List (List Char)) : Bool :=
  let numbers := labels.filterMap labelNumber?
  labels.length ≤ 4 && numbers.length == labels.length &&
    numbers.dropLast.all (· ≤ 255) &&
    (numbers.getLast?.map fun n => decide (n < Nat.pow 256 (5 - labels.length))).getD false

/-- Whether a text without brackets can be a host. -/
def isHostName (host : List Char) : Bool :=
  let labels := host.splitOnP (· == '.')
  let labels := if labels.length > 1 && labels.getLast? == some [] then labels.dropLast else labels
  !host.isEmpty && !host.any isForbiddenInHost &&
    (match labels.getLast? with
     | some label => !isNumericLabel label || isNumberAddress labels
     | none => true)

/-- Whether the text behind a host is a port or nothing. -/
def isOptionalPort (s : List Char) : Bool := s.isEmpty || s == [':'] || isPortSuffix s

/-- Whether an HTTP address can start with a **host and port** as written. What follows a slash, a
backslash, a question mark or a number sign is no part of them, nor is what precedes an at sign. -/
def isAuthority (text : String) : Bool :=
  let upToPath := (text.toList.dropWhile fun c => c == '/' || c == '\\').takeWhile fun c =>
    !(c == '/' || c == '\\' || c == '?' || c == '#')
  let authority := (upToPath.reverse.takeWhile (· != '@')).reverse
  match authority with
  | '[' :: r =>
    match takeIpv6? r with
    | some (']' :: rest) => isOptionalPort rest
    | _ => false
  | _ =>
    isHostName (authority.takeWhile (· != ':')) && isOptionalPort (authority.dropWhile (· != ':'))

end CodePager.Net
