import VocalScore.Encoding.Utf8

/-!
# Encodings of one byte a character

`windows-1252` names each byte: 0xA0 and above are the characters of the same number, and the
bytes 0x80 to 0x9F have a table, in which five places keep their control characters.
`x-user-defined` moves the upper half into the private use area. Where only ASCII is known,
every byte of the upper half is malformed.
-/

namespace VocalScore.SingleByte

/-- The characters of the bytes 0x80 to 0x9F in `windows-1252`. -/
def table1252 : List Char :=
  "€\u0081‚ƒ„…†‡ˆ‰Š‹Œ\u008dŽ\u008f\u0090‘’“”•–—˜™š›œ\u009džŸ".toList

/-- The character of a byte in `windows-1252`. -/
def read1252 (b : UInt8) : Char :=
  let n := b.toNat
  if 0x80 ≤ n ∧ n < 0xA0 then table1252.getD (n - 0x80) Utf8.replacement else Char.ofNat n

/-- The byte of a character in `windows-1252`, if it has one. -/
def write1252? (c : Char) : Option UInt8 :=
  let n := c.toNat
  if n < 0x80 ∨ (0xA0 ≤ n ∧ n ≤ 0xFF) then some (UInt8.ofNat n)
  else (table1252.findIdx? (· == c)).map fun i => UInt8.ofNat (0x80 + i)

/-- The character of a byte in `x-user-defined`. -/
def readUserDefined (b : UInt8) : Char :=
  let n := b.toNat
  if n < 0x80 then Char.ofNat n else Char.ofNat (0xF780 + (n - 0x80))

/-- The byte of a character in `x-user-defined`, if it has one. -/
def writeUserDefined? (c : Char) : Option UInt8 :=
  let n := c.toNat
  if n < 0x80 then some (UInt8.ofNat n)
  else if 0xF780 ≤ n ∧ n ≤ 0xF7FF then some (UInt8.ofNat (n - 0xF780 + 0x80))
  else none

/-- The character of an ASCII byte; any other byte is malformed. -/
def readAscii (b : UInt8) : Char := if b.toNat < 0x80 then Char.ofNat b.toNat else Utf8.replacement

/-- The byte of an ASCII character. -/
def writeAscii? (c : Char) : Option UInt8 :=
  if c.toNat < 0x80 then some (UInt8.ofNat c.toNat) else none

end VocalScore.SingleByte
