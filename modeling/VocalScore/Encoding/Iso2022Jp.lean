import VocalScore.Encoding.Jis0208
import VocalScore.Encoding.Utf8

/-!
# ISO-2022-JP

A text in ISO-2022-JP switches between character sets by escape sequences of three bytes: ASCII,
its Roman variant with a yen sign and an overline, half-width katakana, and JIS X 0208, in which a
character takes two bytes. What is no escape sequence is read again without its first byte, which
is malformed; so is an escape sequence that directly follows another one.

Half-width katakana are only read: they are written as their full-width forms.
-/

namespace VocalScore.Iso2022Jp

/-- The character sets of ISO-2022-JP. -/
inductive Charset where
  | ascii
  | roman
  | katakana
  | kanji
  deriving DecidableEq, Repr

/-- The byte that begins an escape sequence. -/
def escape : Nat := 0x1B

/-- The bytes after `escape` that switch to a character set. -/
def Charset.final : Charset → List Nat
  | ascii => [0x28, 0x42]
  | roman => [0x28, 0x4A]
  | katakana => [0x28, 0x49]
  | kanji => [0x24, 0x42]

/-- The character set that an escape sequence switches to. JIS X 0208 has two of them, of which
one was meant for an older edition. -/
def Charset.ofFinal? : List Nat → Option Charset
  | [0x28, 0x42] => some ascii
  | [0x28, 0x4A] => some roman
  | [0x28, 0x49] => some katakana
  | [0x24, 0x40] | [0x24, 0x42] => some kanji
  | _ => none

/-- A character set is found by the last byte of its escape. -/
theorem Charset.ofFinal?_final (c : Charset) : ofFinal? c.final = some c := by cases c <;> rfl

/-! ### Reading -/

/-- The bytes read that are not a character yet. -/
inductive Pending where
  | nothing
  /-- The first byte of a pair. -/
  | lead (b : Nat)
  /-- The beginning of an escape sequence. -/
  | escape
  /-- An escape sequence that lacks its last byte. -/
  | escapeWith (b : Nat)
  deriving DecidableEq, Repr

/-- What has to be known of the bytes so far. -/
structure State where
  charset : Charset := .ascii
  pending : Pending := .nothing
  /-- Whether an escape sequence was the last to be read. -/
  switched : Bool := false
  deriving DecidableEq, Repr

/-- Bytes of the two places of a pair. -/
def isPlace (b : Nat) : Bool := 0x21 ≤ b && b ≤ 0x7E

/-- Controls of ASCII that would switch character sets by themselves, and may not occur. -/
def isShift (n : Nat) : Bool := n = 0x0E || n = 0x0F || n = escape

/-- The character of a byte in a character set where characters take one byte. -/
def single? (charset : Charset) (b : Nat) : Option Char :=
  match charset with
  | .ascii => if b < 0x80 ∧ ¬isShift b then some (Char.ofNat b) else none
  | .roman =>
    if b = 0x5C then some '\u00A5'
    else if b = 0x7E then some '\u203E'
    else if b < 0x80 ∧ ¬isShift b then some (Char.ofNat b) else none
  | .katakana => if 0x21 ≤ b ∧ b ≤ 0x5F then some (Char.ofNat (0xFF61 + (b - 0x21))) else none
  | .kanji => none

/-- The character of a pair. -/
def pair? (lead trail : Nat) : Option Char :=
  if isPlace trail then Jis0208.charAt? ((lead - 0x21) * 94 + (trail - 0x21)) else none

/-- Read a byte outside of escape sequences. -/
def readByte (s : State) (b : Nat) : List Char × State :=
  match s.pending with
  | .lead a =>
    -- An escape ends a pair that has not come to its second byte.
    if b = escape then ([Utf8.replacement], { s with pending := .escape })
    else ([(pair? a b).getD Utf8.replacement], { s with pending := .nothing })
  | _ =>
    if b = escape then ([], { s with pending := .escape })
    else if s.charset = .kanji ∧ isPlace b then ([], ⟨s.charset, .lead b, false⟩)
    else ([(single? s.charset b).getD Utf8.replacement], ⟨s.charset, .nothing, false⟩)

/-- Give up an escape sequence, and read its bytes again without the first one. -/
def giveUp (s : State) (bs : List Nat) : List Char × State :=
  bs.foldl (fun (cs, s) b => let (ds, s) := readByte s b; (cs ++ ds, s))
    ([Utf8.replacement], ⟨s.charset, .nothing, false⟩)

/-- Read a byte. -/
def step (s : State) (b : Nat) : List Char × State :=
  match s.pending with
  | .escape =>
    if b = 0x24 ∨ b = 0x28 then ([], { s with pending := .escapeWith b }) else giveUp s [b]
  | .escapeWith a =>
    match Charset.ofFinal? [a, b] with
    -- Two escape sequences with nothing between them are malformed.
    | some charset => (if s.switched then [Utf8.replacement] else [], ⟨charset, .nothing, true⟩)
    | none => giveUp s [a, b]
  | _ => readByte s b

/-- What is left to report at the end of the bytes. -/
def finish (s : State) : List Char :=
  match s.pending with
  | .nothing => []
  | .lead _ | .escape => [Utf8.replacement]
  | .escapeWith a =>
    let (cs, t) := giveUp s [a]
    if t.pending = .nothing then cs else cs ++ [Utf8.replacement]

/-- Read bytes after those so far. -/
def decodeFrom (s : State) : List UInt8 → List Char
  | [] => finish s
  | b :: r => let (cs, t) := step s b.toNat; cs ++ decodeFrom t r

/-- The text of bytes, with U+FFFD in place of what is malformed. -/
def decode (bytes : List UInt8) : List Char := decodeFrom {} bytes

/-! ### Writing -/

/-- The full-width forms of half-width katakana. -/
def fullWidth : List Char :=
  ("。「」、・ヲァィゥェォャュョッーアイウエオカキクケコサシスセソタチツテトナニヌネノハヒフヘホ"
    ++ "マミムメモヤユヨラリルレロワン゛゜").toList

/-- The character that is written in place of one. -/
def standIn (c : Char) : Char :=
  if c = '\u2212' then '\uFF0D'
  else if 0xFF61 ≤ c.toNat then fullWidth.getD (c.toNat - 0xFF61) c else c

/-- The pair of a pointer. -/
def pairOf (p : Nat) : List UInt8 := [UInt8.ofNat (p / 94 + 0x21), UInt8.ofNat (p % 94 + 0x21)]

/-- The character set that a character is written in, after one that is in use, and its bytes;
`lacking` are those of a character that cannot be written. -/
def encodeChar (lacking : Char → List UInt8) (charset : Charset) (c : Char) :
    Charset × List UInt8 :=
  if c.toNat < 0x80 then
    (if charset = .roman ∧ c ≠ '\\' ∧ c ≠ '~' then .roman else .ascii,
      if isShift c.toNat then lacking Utf8.replacement else [UInt8.ofNat c.toNat])
  else if c = '\u00A5' then (.roman, [0x5C])
  else if c = '\u203E' then (.roman, [0x7E])
  else match Jis0208.firstPointer? (standIn c) with
    | some p => (.kanji, pairOf p)
    | none => (if charset = .kanji then .ascii else charset, lacking c)

/-- The escape sequence between characters of two sets, if they differ. -/
def switch (before after : Charset) : List UInt8 :=
  if before = after then [] else (escape :: after.final).map UInt8.ofNat

/-- Write a text after some in a character set. -/
def encodeFrom (lacking : Char → List UInt8) (charset : Charset) : List Char → List UInt8
  | [] => switch charset .ascii
  | c :: r =>
    let (next, bytes) := encodeChar lacking charset c
    switch charset next ++ bytes ++ encodeFrom lacking next r

/-- The bytes of a text. At its end the character set is ASCII again. -/
def encode (lacking : Char → List UInt8) (s : List Char) : List UInt8 := encodeFrom lacking .ascii s

/-- A text of ASCII characters without shifts is written as it is. -/
theorem encode_of_ascii {lacking : Char → List UInt8} {s : List Char}
    (h : ∀ c ∈ s, c.toNat < 0x80 ∧ isShift c.toNat = false) :
    encode lacking s = s.map fun c => UInt8.ofNat c.toNat := by
  unfold encode
  induction s with
  | nil => rfl
  | cons c r ih =>
    obtain ⟨hc, hs⟩ := h c (by simp)
    have ih := ih fun d hd => h d (by simp [hd])
    simp [encodeFrom, encodeChar, hc, hs, switch, ih]

end VocalScore.Iso2022Jp
