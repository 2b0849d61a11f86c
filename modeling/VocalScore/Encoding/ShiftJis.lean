import VocalScore.Encoding.Utf8
import VocalScore.Encoding.Jis0208

/-!
# Shift_JIS

Bytes up to 0x80 are themselves and 0xA1 to 0xDF are half-width katakana. The other characters
take two bytes, a lead and a trail, which give a pointer into JIS X 0208; leads 0xF0 to 0xF9
are for private use, and are read but not written. A pair without a character is malformed,
and its second byte is read again if it is ASCII.
-/

namespace VocalScore.ShiftJis

/-- A byte that begins a pair. -/
def isLead (b : Nat) : Bool := (0x81 ≤ b && b ≤ 0x9F) || (0xE0 ≤ b && b ≤ 0xFC)

/-- Read a byte that is not the second of a pair. -/
def start (b : Nat) : List Char × Option Nat :=
  if b ≤ 0x80 then ([Char.ofNat b], none)
  else if 0xA1 ≤ b ∧ b ≤ 0xDF then ([Char.ofNat (0xFF61 + (b - 0xA1))], none)
  else if isLead b then ([], some b)
  else ([Utf8.replacement], none)

/-- The pointer that a pair gives. -/
def pointer? (lead trail : Nat) : Option Nat :=
  if (0x40 ≤ trail ∧ trail ≤ 0x7E) ∨ (0x80 ≤ trail ∧ trail ≤ 0xFC) then
    -- Leads leave out the half-width katakana, trails the byte 0x7F.
    some ((lead - if lead < 0xA0 then 0x81 else 0xC1) * 188
      + (trail - if trail < 0x7F then 0x40 else 0x41))
  else none

/-- The pointers of private use characters begin here. -/
def privateFirst : Nat := 8836

/-- The last pointer of a private use character. -/
def privateLast : Nat := 10715

/-- The character of a pair. -/
def pair? (lead trail : Nat) : Option Char :=
  (pointer? lead trail).bind fun p =>
    if privateFirst ≤ p ∧ p ≤ privateLast then some (Char.ofNat (0xE000 + (p - privateFirst)))
    else Jis0208.charAt? p

/-- Read a byte after the lead under way, if there is one. -/
def step : Option Nat → Nat → List Char × Option Nat
  | none, b => start b
  | some lead, b =>
    match pair? lead b with
    | some c => ([c], none)
    -- The lead alone is replaced if the second byte can stand for itself.
    | none => if b < 0x80 then ([Utf8.replacement, Char.ofNat b], none)
      else ([Utf8.replacement], none)

/-- Read bytes after the lead under way, if there is one. -/
def decodeFrom : Option Nat → List UInt8 → List Char
  | none, [] => []
  | some _, [] => [Utf8.replacement]
  | lead, b :: r =>
    let (cs, next) := step lead b.toNat
    cs ++ decodeFrom next r

/-- The text of bytes, with U+FFFD in place of what is malformed. -/
def decode (bytes : List UInt8) : List Char := decodeFrom none bytes

/-- The pair of a pointer. -/
def pairOf (p : Nat) : List UInt8 :=
  let lead := p / 188
  let trail := p % 188
  [UInt8.ofNat (lead + if lead < 0x1F then 0x81 else 0xC1),
    UInt8.ofNat (trail + if trail < 0x3F then 0x40 else 0x41)]

/-- The bytes of a character, if it has any. The signs of yen and overline share the bytes of
ASCII characters, and the minus sign is written as its full-width form. -/
def encodeChar? (c : Char) : Option (List UInt8) :=
  let n := c.toNat
  if n ≤ 0x80 then some [UInt8.ofNat n]
  else if n = 0xA5 then some [0x5C]
  else if n = 0x203E then some [0x7E]
  else if 0xFF61 ≤ n ∧ n ≤ 0xFF9F then some [UInt8.ofNat (n - 0xFF61 + 0xA1)]
  else (Jis0208.pointer? (if n = 0x2212 then '\uFF0D' else c)).map pairOf

end VocalScore.ShiftJis
