/-!
# UTF-8

`encode` writes each character with one to four bytes. `decode` reads bytes one at a time and
keeps what the character under way still needs: how many bytes, the range that the next one
must lie in, and the bits so far. A byte out of range ends the character under way with one
U+FFFD and is then read as the start of the next, so each longest malformed beginning of a
character counts once.

`decode_encode` says that text survives; `isValid` tells whether bytes are UTF-8 throughout.
-/

namespace VocalScore.Utf8

/-- The replacement character, which stands for malformed input. -/
def replacement : Char := '\uFFFD'

/-- A character that has begun: how many bytes it still needs, the range of the next byte, and
the bits read so far. -/
structure Pending where
  needed : Nat
  lower : Nat
  upper : Nat
  bits : Nat
  deriving DecidableEq, Repr

/-- What the first byte of a character says: a character, a character begun, or neither. -/
def start (b : Nat) : List Char × Option Pending :=
  if b < 0x80 then ([Char.ofNat b], none)
  else if b < 0xC2 then ([replacement], none)
  else if b < 0xE0 then ([], some ⟨1, 0x80, 0xBF, b - 0xC0⟩)
  -- The narrower ranges leave out forms that are too long, surrogates, and what is beyond the
  -- last code point.
  else if b = 0xE0 then ([], some ⟨2, 0xA0, 0xBF, 0⟩)
  else if b = 0xED then ([], some ⟨2, 0x80, 0x9F, 0xD⟩)
  else if b < 0xF0 then ([], some ⟨2, 0x80, 0xBF, b - 0xE0⟩)
  else if b = 0xF0 then ([], some ⟨3, 0x90, 0xBF, 0⟩)
  else if b < 0xF4 then ([], some ⟨3, 0x80, 0xBF, b - 0xF0⟩)
  else if b = 0xF4 then ([], some ⟨3, 0x80, 0x8F, 4⟩)
  else ([replacement], none)

/-- Read one byte. -/
def step : Option Pending → Nat → List Char × Option Pending
  | none, b => start b
  | some p, b =>
    if p.lower ≤ b ∧ b ≤ p.upper then
      let bits := p.bits * 64 + (b - 0x80)
      if p.needed = 1 then ([Char.ofNat bits], none)
      else ([], some ⟨p.needed - 1, 0x80, 0xBF, bits⟩)
    else
      let (cs, next) := start b
      (replacement :: cs, next)

/-- Read bytes after the character under way, if there is one. -/
def decodeFrom : Option Pending → List UInt8 → List Char
  | none, [] => []
  | some _, [] => [replacement]
  | p, b :: r =>
    let (cs, next) := step p b.toNat
    cs ++ decodeFrom next r

/-- The text of bytes, with U+FFFD in place of what is malformed. -/
def decode (bytes : List UInt8) : List Char := decodeFrom none bytes

/-- The bytes of one character. -/
def encodeChar (c : Char) : List UInt8 :=
  let n := c.toNat
  if n < 0x80 then [UInt8.ofNat n]
  else if n < 0x800 then [UInt8.ofNat (0xC0 + n / 64), UInt8.ofNat (0x80 + n % 64)]
  else if n < 0x10000 then
    [UInt8.ofNat (0xE0 + n / 4096), UInt8.ofNat (0x80 + n / 64 % 64), UInt8.ofNat (0x80 + n % 64)]
  else
    [UInt8.ofNat (0xF0 + n / 262144), UInt8.ofNat (0x80 + n / 4096 % 64),
      UInt8.ofNat (0x80 + n / 64 % 64), UInt8.ofNat (0x80 + n % 64)]

/-- The bytes of a text. -/
def encode (s : List Char) : List UInt8 := s.flatMap encodeChar

/-- Whether bytes are UTF-8 throughout: nothing was replaced in reading them. -/
def isValid (bytes : List UInt8) : Bool := encode (decode bytes) == bytes

/-- A code point of a character lies outside the surrogates. -/
private theorem scalar_range (c : Char) :
    c.toNat < 0xD800 ∨ (0xDFFF < c.toNat ∧ c.toNat < 0x110000) := by
  have := c.valid
  simp only [UInt32.isValidChar, Nat.isValidChar] at this
  exact this

/-- A number below 256 fits in a byte. -/
private theorem toNat_ofNat_byte {n : Nat} (h : n < 256) : (UInt8.ofNat n).toNat = n := by
  simp [UInt8.toNat_ofNat', Nat.mod_eq_of_lt h]

/-- The first byte of a character of two bytes. -/
private theorem start_two {a : Nat} (hlo : 2 ≤ a) (hhi : a < 0x20) :
    start (0xC0 + a) = ([], some ⟨1, 0x80, 0xBF, a⟩) := by
  rw [start, if_neg (by omega), if_neg (by omega), if_pos (by omega), Nat.add_sub_cancel_left]

/-- The first byte of a character of three bytes, and a range that has the second one. -/
private theorem start_three {n : Nat} (hlo : 0x800 ≤ n) (hhi : n < 0x10000)
    (hscalar : n < 0xD800 ∨ 0xDFFF < n) :
    ∃ lo hi, start (0xE0 + n / 4096) = ([], some ⟨2, lo, hi, n / 4096⟩) ∧
      lo ≤ 0x80 + n / 64 % 64 ∧ 0x80 + n / 64 % 64 ≤ hi := by
  rw [start, if_neg (by omega), if_neg (by omega), if_neg (by omega)]
  by_cases hzero : n / 4096 = 0
  · exact ⟨0xA0, 0xBF, by simp [hzero], by omega, by omega⟩
  · rw [if_neg (by omega)]
    by_cases hsurrogate : n / 4096 = 0xD
    · exact ⟨0x80, 0x9F, by simp [hsurrogate], by omega, by omega⟩
    · refine ⟨0x80, 0xBF, ?_, by omega, by omega⟩
      rw [if_neg (by omega), if_pos (by omega), Nat.add_sub_cancel_left]

/-- The first byte of a character of four bytes, and a range that has the second one. -/
private theorem start_four {n : Nat} (hlo : 0x10000 ≤ n) (hhi : n < 0x110000) :
    ∃ lo hi, start (0xF0 + n / 262144) = ([], some ⟨3, lo, hi, n / 262144⟩) ∧
      lo ≤ 0x80 + n / 4096 % 64 ∧ 0x80 + n / 4096 % 64 ≤ hi := by
  rw [start, if_neg (by omega), if_neg (by omega), if_neg (by omega), if_neg (by omega),
    if_neg (by omega), if_neg (by omega)]
  by_cases hzero : n / 262144 = 0
  · exact ⟨0x90, 0xBF, by simp [hzero], by omega, by omega⟩
  · rw [if_neg (by omega)]
    by_cases hlast : n / 262144 = 4
    · exact ⟨0x80, 0x8F, by simp [hlast], by omega, by omega⟩
    · refine ⟨0x80, 0xBF, ?_, by omega, by omega⟩
      rw [if_pos (by omega), Nat.add_sub_cancel_left]

/-- A first byte leaves a character under way. -/
private theorem decodeFrom_first {b : Nat} {p : Pending} (hb : b < 256)
    (h : start b = ([], some p)) (r : List UInt8) :
    decodeFrom none (UInt8.ofNat b :: r) = decodeFrom (some p) r := by
  rw [decodeFrom, toNat_ofNat_byte hb, step, h]
  rfl

/-- A byte in the middle of a character adds its six bits. -/
private theorem decodeFrom_middle {k lo hi bits d : Nat} (hd : d < 64) (hlo : lo ≤ 0x80 + d)
    (hhi : 0x80 + d ≤ hi) (r : List UInt8) :
    decodeFrom (some ⟨k + 2, lo, hi, bits⟩) (UInt8.ofNat (0x80 + d) :: r) =
      decodeFrom (some ⟨k + 1, 0x80, 0xBF, bits * 64 + d⟩) r := by
  rw [decodeFrom, toNat_ofNat_byte (by omega), step, if_pos ⟨hlo, hhi⟩, Nat.add_sub_cancel_left,
    if_neg (by simp)]
  rfl

/-- The last byte of a character completes it. -/
private theorem decodeFrom_last {bits d : Nat} (hd : d < 64) (r : List UInt8) :
    decodeFrom (some ⟨1, 0x80, 0xBF, bits⟩) (UInt8.ofNat (0x80 + d) :: r) =
      Char.ofNat (bits * 64 + d) :: decodeFrom none r := by
  have hrange : 0x80 ≤ 0x80 + d ∧ 0x80 + d ≤ 0xBF := by omega
  rw [decodeFrom, toNat_ofNat_byte (by omega), step, if_pos hrange, Nat.add_sub_cancel_left]
  rfl

/-- Reading the bytes of a character gives the character. -/
theorem decodeFrom_encodeChar (c : Char) (r : List UInt8) :
    decodeFrom none (encodeChar c ++ r) = c :: decodeFrom none r := by
  have hscalar := scalar_range c
  have hback : Char.ofNat c.toNat = c := Char.ofNat_toNat c
  unfold encodeChar
  simp only
  -- One case for each number of bytes; their bits make up the number of the character.
  generalize c.toNat = n at *
  split
  next hone => simp [decodeFrom, step, start, toNat_ofNat_byte (show n < 256 by omega), hone, hback]
  next =>
    split
    next =>
      have hbits : n / 64 * 64 + n % 64 = n := by omega
      rw [List.cons_append, List.cons_append, List.nil_append,
        decodeFrom_first (by omega) (start_two (by omega) (by omega)),
        decodeFrom_last (by omega), hbits, hback]
    next =>
      split
      next =>
        have hbits : (n / 4096 * 64 + n / 64 % 64) * 64 + n % 64 = n := by omega
        obtain ⟨lo, hi, hstart, hlo, hhi⟩ := start_three (n := n) (by omega) (by omega) (by omega)
        rw [List.cons_append, List.cons_append, List.cons_append, List.nil_append,
          decodeFrom_first (by omega) hstart, decodeFrom_middle (by omega) hlo hhi,
          decodeFrom_last (by omega), hbits, hback]
      next =>
        have hbits : ((n / 262144 * 64 + n / 4096 % 64) * 64 + n / 64 % 64) * 64 + n % 64 = n := by
          omega
        obtain ⟨lo, hi, hstart, hlo, hhi⟩ := start_four (n := n) (by omega) (by omega)
        rw [List.cons_append, List.cons_append, List.cons_append, List.cons_append,
          List.nil_append, decodeFrom_first (by omega) hstart, decodeFrom_middle (by omega) hlo hhi,
          decodeFrom_middle (by omega) (by omega) (by omega), decodeFrom_last (by omega), hbits,
          hback]

/-- Text survives being written as UTF-8 and read again, whatever bytes follow. -/
theorem decode_encode_append (s : List Char) (r : List UInt8) :
    decode (encode s ++ r) = s ++ decode r := by
  induction s with
  | nil => rfl
  | cons c s ih =>
    simp only [encode, List.flatMap_cons, List.append_assoc, decode] at ih ⊢
    rw [decodeFrom_encodeChar, ih]
    rfl

/-- Text survives being written as UTF-8 and read again. -/
theorem decode_encode (s : List Char) : decode (encode s) = s := by
  have := decode_encode_append s []
  simpa [decode, decodeFrom] using this

/-- Written text is UTF-8 throughout. -/
theorem isValid_encode (s : List Char) : isValid (encode s) = true := by
  simp [isValid, decode_encode]

end VocalScore.Utf8
