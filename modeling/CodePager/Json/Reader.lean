import CodePager.Json.Number

/-! # Reading JSON

A reader of JSON texts that says what is wrong and where. `parse` reads a whole text, `valueWith`
one value; arrays and objects may be nested 127 deep. The four blanks of the format may stand
between tokens, a comma may not stand before a closing bracket, a string may hold no raw control
character and no half of a surrogate pair, and a key that comes twice keeps its first place and its
last value. -/

namespace CodePager.Json

/-! ### Faults -/

/-- What can be wrong with a JSON text. -/
inductive Fault where
  | endOfList
  | endOfObject
  | endOfString
  | endOfValue
  | missingColon
  | missingListSeparator
  | missingFieldSeparator
  | badLiteral
  | missingValue
  | badEscape
  | badNumber
  | numberTooLarge
  | controlCharacter
  | badKey
  | loneSurrogate
  | cutSurrogate
  | trailingComma
  | trailingText
  | tooDeep
  deriving DecidableEq

/-- The wording of a fault. -/
def Fault.message : Fault → String
  | .endOfList => "EOF while parsing a list"
  | .endOfObject => "EOF while parsing an object"
  | .endOfString => "EOF while parsing a string"
  | .endOfValue => "EOF while parsing a value"
  | .missingColon => "expected `:`"
  | .missingListSeparator => "expected `,` or `]`"
  | .missingFieldSeparator => "expected `,` or `\x7d`"
  | .badLiteral => "expected ident"
  | .missingValue => "expected value"
  | .badEscape => "invalid escape"
  | .badNumber => "invalid number"
  | .numberTooLarge => "number out of range"
  | .controlCharacter => "control character (\\u0000-\\u001F) found while parsing a string"
  | .badKey => "key must be a string"
  | .loneSurrogate => "lone leading surrogate in hex escape"
  | .cutSurrogate => "unexpected end of hex escape"
  | .trailingComma => "trailing comma"
  | .trailingText => "trailing characters"
  | .tooDeep => "recursion limit exceeded"

/-- A fault and the place where it shows: `ahead` bytes into the `rest` of the text. -/
structure FaultAt where
  fault : Fault
  rest : List Char
  ahead : Nat

/-- What a part of the reader gives: a result and the rest of the text, or a fault. -/
abbrev Step (α : Type) := Except FaultAt (α × List Char)

/-- A fault that shows before the rest of the text. -/
def failAt {α : Type} (fault : Fault) (rest : List Char) : Except FaultAt α :=
  .error ⟨fault, rest, 0⟩

/-- A fault that shows behind the first byte of the rest of the text. -/
def failPast {α : Type} (fault : Fault) (rest : List Char) : Except FaultAt α :=
  .error ⟨fault, rest, 1⟩

/-! ### Blanks and literals -/

/-- The blanks that may stand between tokens. -/
def isSpace (c : Char) : Bool := c == ' ' || c == '\n' || c == '\t' || c == '\r'

/-- The text from its first token on. -/
def skipSpace (s : List Char) : List Char := s.dropWhile isSpace

/-- Reads the rest of `true`, `false` or `null`. -/
def literal (v : Json) : List Char → List Char → Step Json
  | [], s => .ok (v, s)
  | _ :: _, [] => failAt .endOfValue []
  | c :: cs, x :: s => if x = c then literal v cs s else failPast .badLiteral (x :: s)

/-! ### Numbers -/

/-- The value of a decimal digit. -/
def digit? (c : Char) : Option Nat :=
  if '0' ≤ c && c ≤ '9' then some (c.toNat - 0x30) else none

/-- Collects the digits at the front of a text. -/
def takeDigits (sig : Significand) : List Char → Significand × List Char
  | [] => (sig, [])
  | c :: s =>
    match digit? c with
    | some d => takeDigits (sig.push d) s
    | none => (sig, c :: s)

/-- A double with its sign, or the fault that it is too large. -/
def scaled (negative : Bool) (significand : Nat) (exponent : Int) (rest : List Char) : Step Json :=
  match scaleByTen? significand exponent with
  | some x => .ok (.float (signed negative x), rest)
  | none => failAt .numberTooLarge rest

/-- The largest exponent that is read digit by digit. -/
def maxWrittenExponent : Nat := 0x7FFFFFFF

/-- The digits of an exponent, from those already read. The result is `none` once it passes
`maxWrittenExponent`, and the rest then starts behind the digit that made it so. -/
def takeExponent (read : Nat) : List Char → Option Nat × List Char
  | [] => (some read, [])
  | c :: s =>
    match digit? c with
    | some d =>
      if read * 10 + d ≤ maxWrittenExponent then takeExponent (read * 10 + d) s else (none, s)
    | none => (some read, c :: s)

/-- Reads what follows the `e` of a number: a sign, if there is one, and at least one digit. -/
def exponentPart (negative : Bool) (significand : Nat) (start : Int) (s : List Char) : Step Json :=
  let (down, s) :=
    match s with
    | '+' :: r => (false, r)
    | '-' :: r => (true, r)
    | _ => (false, s)
  match s with
  | [] => failAt .endOfValue []
  | c :: r =>
    match digit? c with
    | none => failPast .badNumber s
    | some d =>
      match takeExponent d r with
      | (some e, rest) =>
        scaled negative significand (if down then start - (e : Int) else start + (e : Int)) rest
      | (none, rest) =>
        if significand ≠ 0 ∧ ¬down then failAt .numberTooLarge rest
        else .ok (.float (signed negative 0), rest.dropWhile fun c => (digit? c).isSome)

/-- Reads what follows the point of a number: at least one digit, and an exponent if there is
one. -/
def fractionPart (negative : Bool) (significand dropped : Nat) (s : List Char) : Step Json :=
  let (sig, rest) := takeDigits ⟨significand, 0, 0⟩ s
  if sig.length = 0 then
    if s.isEmpty then failPast .endOfValue s else failPast .badNumber s
  else
    let exponent : Int := (dropped : Int) - sig.kept
    match rest with
    | 'e' :: r => exponentPart negative sig.value exponent r
    | 'E' :: r => exponentPart negative sig.value exponent r
    | _ => scaled negative sig.value exponent rest

/-- Reads what follows the whole part of a number. -/
def afterWhole (negative : Bool) (sig : Significand) (s : List Char) : Step Json :=
  match s with
  | '.' :: r => fractionPart negative sig.value sig.dropped r
  | 'e' :: r => exponentPart negative sig.value sig.dropped r
  | 'E' :: r => exponentPart negative sig.value sig.dropped r
  | _ =>
    if sig.dropped = 0 then .ok (ofDigits negative sig.value, s)
    else scaled negative sig.value sig.dropped s

/-- Reads a number behind its sign. A leading zero stands alone. -/
def number (negative : Bool) (s : List Char) : Step Json :=
  match s with
  | [] => failAt .endOfValue []
  | c :: r =>
    match digit? c with
    | none => failPast .badNumber s
    | some 0 =>
      match r with
      | d :: _ =>
        if (digit? d).isSome then failPast .badNumber r else afterWhole negative ⟨0, 1, 0⟩ r
      | [] => afterWhole negative ⟨0, 1, 0⟩ r
    | some d =>
      let (sig, rest) := takeDigits ⟨d, 1, 0⟩ r
      afterWhole negative sig rest

/-! ### Strings -/

/-- The value of a hexadecimal digit of either case. -/
def hexDigit? (c : Char) : Option Nat :=
  if '0' ≤ c && c ≤ '9' then some (c.toNat - 0x30)
  else if 'a' ≤ c && c ≤ 'f' then some (c.toNat - 0x57)
  else if 'A' ≤ c && c ≤ 'F' then some (c.toNat - 0x37)
  else none

/-- The number of bytes of a text in UTF-8. -/
def byteCount (s : List Char) : Nat := s.foldr (fun c n => c.utf8Size + n) 0

/-- Reads four hexadecimal digits. Four bytes are taken before they are looked at. -/
def hexQuad (s : List Char) : Except FaultAt (Nat × { r : List Char // r.length < s.length }) :=
  match s with
  | a :: b :: c :: d :: r =>
    match hexDigit? a, hexDigit? b, hexDigit? c, hexDigit? d with
    | some a, some b, some c, some d =>
      .ok (((a * 16 + b) * 16 + c) * 16 + d, ⟨r, by simp; omega⟩)
    | _, _, _, _ => .error ⟨.badEscape, s, 4⟩
  | _ => if byteCount s < 4 then failAt .endOfString [] else .error ⟨.badEscape, s, 4⟩

/-- Reads the escape behind `\u`: one 16-bit unit, or the two of a surrogate pair. -/
def unicodeEscape (s : List Char) :
    Except FaultAt (Char × { r : List Char // r.length < s.length }) :=
  match hexQuad s with
  | .error e => .error e
  | .ok (n, ⟨r, hr⟩) =>
    if 0xDC00 ≤ n ∧ n ≤ 0xDFFF then failAt .loneSurrogate r
    else if n < 0xD800 ∨ 0xDBFF < n then .ok (Char.ofNat n, ⟨r, hr⟩)
    else
      match r with
      | [] => failAt .endOfString []
      | '\\' :: [] => failAt .endOfString []
      | '\\' :: 'u' :: r2 =>
        match hexQuad r2 with
        | .error e => .error e
        | .ok (m, ⟨r3, hr3⟩) =>
          if 0xDC00 ≤ m ∧ m ≤ 0xDFFF then
            .ok (Char.ofNat ((n - 0xD800) * 0x400 + (m - 0xDC00) + 0x10000),
              ⟨r3, by simp at hr; omega⟩)
          else failAt .loneSurrogate r3
      | '\\' :: r2 => failPast .cutSurrogate r2
      | _ => failPast .cutSurrogate r

/-- Reads the escape behind a backslash. -/
def escape (s : List Char) : Except FaultAt (Char × { r : List Char // r.length < s.length }) :=
  match s with
  | [] => failAt .endOfString []
  | c :: r =>
    let simple := fun (x : Char) => .ok (x, ⟨r, by simp⟩)
    match c with
    | '"' => simple '"'
    | '\\' => simple '\\'
    | '/' => simple '/'
    | 'b' => simple '\x08'
    | 'f' => simple '\x0c'
    | 'n' => simple '\n'
    | 'r' => simple '\r'
    | 't' => simple '\t'
    | 'u' =>
      match unicodeEscape r with
      | .error e => .error e
      | .ok (x, ⟨r2, h⟩) => .ok (x, ⟨r2, by simp; omega⟩)
    | _ => failPast .badEscape s

/-- Reads a string behind its opening quote; `read` holds the characters so far, the last first. -/
def stringBody (read : List Char) (s : List Char) : Step String :=
  match s with
  | [] => failAt .endOfString []
  | c :: r =>
    if c = '"' then .ok (String.ofList read.reverse, r)
    else if c = '\\' then
      match escape r with
      | .error e => .error e
      | .ok (x, ⟨r2, _⟩) => stringBody (x :: read) r2
    else if c.toNat < 0x20 then failPast .controlCharacter s
    else stringBody (c :: read) r
termination_by s.length
decreasing_by all_goals (simp; try omega)

/-! ### Arrays, objects and values -/

/-- Reads the items of an array behind its opening bracket or behind an item. Every item takes a
character, so `fuel` need not exceed the length of the text. -/
def items (value : List Char → Step Json) :
    Nat → Bool → List Json → List Char → Step (List Json)
  | 0, _, _, s => failPast .endOfList s
  | fuel + 1, first, read, s =>
    let s := skipSpace s
    let item := fun s =>
      match value s with
      | .error e => .error e
      | .ok (v, rest) => items value fuel false (v :: read) rest
    match s with
    | [] => failPast .endOfList []
    | ']' :: r => .ok (read.reverse, r)
    | c :: r =>
      if first then item s
      else if c = ',' then
        match skipSpace r with
        | [] => failPast .endOfValue []
        | ']' :: r2 => failPast .trailingComma (']' :: r2)
        | s2 => item s2
      else failPast .missingListSeparator s

/-- Reads the fields of an object behind its opening brace or behind a field; `fuel` as for
`items`. -/
def fields (value : List Char → Step Json) :
    Nat → Bool → List (String × Json) → List Char → Step (List (String × Json))
  | 0, _, _, s => failPast .endOfObject s
  | fuel + 1, first, read, s =>
    let s := skipSpace s
    let field := fun s =>
      match stringBody [] s with
      | .error e => .error e
      | .ok (key, r) =>
        match skipSpace r with
        | [] => failPast .endOfObject []
        | ':' :: r2 =>
          match value r2 with
          | .error e => .error e
          | .ok (v, rest) => fields value fuel false (Fields.put key v read) rest
        | r2 => failPast .missingColon r2
    match s with
    | [] => failPast .endOfObject []
    | '\x7d' :: r => .ok (read, r)
    | c :: r =>
      if first then
        if c = '"' then field r else failPast .badKey s
      else if c = ',' then
        match skipSpace r with
        | [] => failPast .endOfValue []
        | '"' :: r2 => field r2
        | '\x7d' :: r2 => failPast .trailingComma ('\x7d' :: r2)
        | s2 => failPast .badKey s2
      else failPast .missingFieldSeparator s

/-- Reads one value. The reader of what is nested in it is missing where nothing may be nested any
deeper. -/
def valueWith (fuel : Nat) (nested : Option (List Char → Step Json)) (s : List Char) : Step Json :=
  match skipSpace s with
  | [] => failPast .endOfValue []
  | 'n' :: r => literal .null ['u', 'l', 'l'] r
  | 't' :: r => literal (.bool true) ['r', 'u', 'e'] r
  | 'f' :: r => literal (.bool false) ['a', 'l', 's', 'e'] r
  | '-' :: r => number true r
  | '"' :: r =>
    match stringBody [] r with
    | .error e => .error e
    | .ok (text, rest) => .ok (.str text, rest)
  | '[' :: r =>
    match nested with
    | none => failPast .tooDeep ('[' :: r)
    | some value =>
      match items value fuel true [] r with
      | .error e => .error e
      | .ok (vs, rest) => .ok (.arr vs, rest)
  | '\x7b' :: r =>
    match nested with
    | none => failPast .tooDeep ('\x7b' :: r)
    | some value =>
      match fields value fuel true [] r with
      | .error e => .error e
      | .ok (fs, rest) => .ok (.obj fs, rest)
  | c :: r => if (digit? c).isSome then number false (c :: r) else failPast .missingValue (c :: r)

/-- Reads one value with at most `depth` arrays and objects inside each other. -/
def value (fuel : Nat) : Nat → List Char → Step Json
  | 0, s => valueWith fuel none s
  | depth + 1, s => valueWith fuel (some (value fuel depth)) s

/-! ### Whole texts -/

/-- A fault and its place in the text: the line, counted from one, and the bytes of the line before
the place. -/
structure ReadError where
  fault : Fault
  line : Nat
  column : Nat
  deriving DecidableEq

/-- The wording of a fault and its place. -/
def ReadError.message (e : ReadError) : String :=
  e.fault.message ++ " at line " ++ toString e.line ++ " column " ++ toString e.column

/-- The line and column behind the first `bytes` bytes of a text, from a line and column on. -/
def placeOf : List Char → Nat → Nat → Nat → Nat × Nat
  | [], _, line, column => (line, column)
  | c :: s, bytes, line, column =>
    if bytes < c.utf8Size then (line, column + bytes)
    else if c = '\n' then placeOf s (bytes - c.utf8Size) (line + 1) 0
    else placeOf s (bytes - c.utf8Size) line (column + c.utf8Size)

/-- Reads a whole text with at most `depth` arrays and objects inside each other. -/
def parseNested (depth : Nat) (text : String) : Except ReadError Json :=
  let s := text.toList
  let locate := fun (e : FaultAt) =>
    let (line, column) := placeOf s (byteCount s - byteCount e.rest + e.ahead) 1 0
    .error ⟨e.fault, line, column⟩
  match value (s.length + 1) depth s with
  | .error e => locate e
  | .ok (v, rest) =>
    match skipSpace rest with
    | [] => .ok v
    | rest => locate ⟨.trailingText, rest, 1⟩

/-- How deep arrays and objects may be nested. -/
def maxDepth : Nat := 127

/-- Reads a **whole JSON text**. -/
def parse (text : String) : Except ReadError Json := parseNested maxDepth text

end CodePager.Json
