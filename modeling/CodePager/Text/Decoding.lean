/-! # Decoding bytes

The text that a sequence of bytes stands for. `decodeText` looks for a byte order mark, which picks
UTF-16 in either order or is dropped once, and otherwise reads UTF-8. Nothing is refused: each
maximal part of a sequence that cannot be read becomes one replacement character. -/

namespace CodePager.Text

/-- The character that stands for bytes that cannot be read. -/
def replacement : Char := '\uFFFD'

/-! ### UTF-8 -/

/-- What is known in the middle of a UTF-8 sequence: how many bytes are `missing`, the bits read so
far, and the range that the next byte must lie in. With none missing, the next byte starts a
character. -/
structure Utf8State where
  missing : Nat
  bits : Nat
  low : UInt8
  high : UInt8

/-- Between two characters. -/
def Utf8State.start : Utf8State := ⟨0, 0, 0x80, 0xBF⟩

/-- Reads the first byte of a character. -/
def Utf8State.first (b : UInt8) : List Char × Utf8State :=
  if b ≤ 0x7F then ([Char.ofNat b.toNat], start)
  else if 0xC2 ≤ b && b ≤ 0xDF then ([], ⟨1, b.toNat % 32, 0x80, 0xBF⟩)
  else if 0xE0 ≤ b && b ≤ 0xEF then
    ([], ⟨2, b.toNat % 16, if b == 0xE0 then 0xA0 else 0x80, if b == 0xED then 0x9F else 0xBF⟩)
  else if 0xF0 ≤ b && b ≤ 0xF4 then
    ([], ⟨3, b.toNat % 8, if b == 0xF0 then 0x90 else 0x80, if b == 0xF4 then 0x8F else 0xBF⟩)
  else ([replacement], start)

/-- Reads one byte. A byte that cannot continue the sequence ends it, and is read again as the first
byte of the next character. -/
def Utf8State.step (s : Utf8State) (b : UInt8) : List Char × Utf8State :=
  if s.missing = 0 then first b
  else if s.low ≤ b && b ≤ s.high then
    let bits := s.bits * 64 + b.toNat % 64
    if s.missing = 1 then ([Char.ofNat bits], start) else ([], ⟨s.missing - 1, bits, 0x80, 0xBF⟩)
  else
    let (out, next) := first b
    (replacement :: out, next)

/-- The characters of a UTF-8 sequence. One that ends within a character ends in a replacement. -/
def decodeUtf8 (bytes : List UInt8) : List Char :=
  let (out, last) := bytes.foldl
    (fun (out, s) b =>
      let (cs, next) := Utf8State.step s b
      (cs.reverse ++ out, next))
    (([] : List Char), Utf8State.start)
  (if last.missing = 0 then out else replacement :: out).reverse

/-! ### UTF-16 -/

/-- The 16-bit units of a byte sequence, and whether a byte is left over. -/
def units16 (bigEndian : Bool) : List UInt8 → List Nat × Bool
  | [] => ([], false)
  | [_] => ([], true)
  | a :: b :: rest =>
    let (units, odd) := units16 bigEndian rest
    ((if bigEndian then a.toNat * 256 + b.toNat else b.toNat * 256 + a.toNat) :: units, odd)

/-- The characters of a sequence of 16-bit units. A surrogate without its partner cannot be read;
one that is cut off by the end of the bytes and a left-over byte are one unreadable part. -/
def decodeUnits16 : List Nat → Bool → List Char
  | [], odd => if odd then [replacement] else []
  | [u], odd =>
    if 0xD800 ≤ u ∧ u ≤ 0xDBFF then [replacement]
    else
      (if 0xDC00 ≤ u ∧ u ≤ 0xDFFF then replacement else Char.ofNat u) ::
        (if odd then [replacement] else [])
  | u :: v :: rest, odd =>
    if 0xD800 ≤ u ∧ u ≤ 0xDBFF then
      if 0xDC00 ≤ v ∧ v ≤ 0xDFFF then
        Char.ofNat ((u - 0xD800) * 0x400 + (v - 0xDC00) + 0x10000) :: decodeUnits16 rest odd
      else replacement :: decodeUnits16 (v :: rest) odd
    else if 0xDC00 ≤ u ∧ u ≤ 0xDFFF then replacement :: decodeUnits16 (v :: rest) odd
    else Char.ofNat u :: decodeUnits16 (v :: rest) odd

/-- The characters of a UTF-16 sequence. -/
def decodeUtf16 (bigEndian : Bool) (bytes : List UInt8) : List Char :=
  let (units, odd) := units16 bigEndian bytes
  decodeUnits16 units odd

/-! ### With a byte order mark -/

/-- The **text of a byte sequence**: a leading byte order mark decides between UTF-8 and the two
orders of UTF-16 and is not part of the text; without one the bytes are UTF-8. -/
def decodeText (bytes : List UInt8) : String :=
  String.ofList <|
    match bytes with
    | 0xEF :: 0xBB :: 0xBF :: rest => decodeUtf8 rest
    | 0xFF :: 0xFE :: rest => decodeUtf16 false rest
    | 0xFE :: 0xFF :: rest => decodeUtf16 true rest
    | _ => decodeUtf8 bytes

end CodePager.Text
