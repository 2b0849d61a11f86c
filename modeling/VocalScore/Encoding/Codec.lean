import VocalScore.Text.Quoted
import VocalScore.Encoding.Iso2022Jp
import VocalScore.Encoding.Label
import VocalScore.Encoding.Utf16
import VocalScore.Encoding.ShiftJis
import VocalScore.Encoding.SingleByte

/-!
# Reading and writing text in an encoding

`Encoding.decode` drops one byte order mark of the same encoding and reads the rest, with
U+FFFD in place of what is malformed. `Encoding.encode` writes text; what an encoding lacks
becomes a numeric reference such as `&#9834;`. The encodings that are only ever read, UTF-16
and `replacement`, are written as UTF-8.

The legacy encodings of east Asia other than Shift_JIS and ISO-2022-JP, and the single-byte
encodings other than `windows-1252`, are known here by their ASCII half only.
-/

namespace VocalScore.Encoding

/-- The byte order mark that an encoding removes. -/
def mark : Encoding → List UInt8
  | .utf8 => [0xEF, 0xBB, 0xBF]
  | .utf16le => [0xFF, 0xFE]
  | .utf16be => [0xFE, 0xFF]
  | _ => []

/-- Drop a row of bytes at the front, if it stands there. -/
def dropBytes (m bytes : List UInt8) : List UInt8 :=
  if m.isPrefixOf bytes then bytes.drop m.length else bytes

/-- Read bytes that have no byte order mark. -/
def decodeUnmarked : Encoding → List UInt8 → List Char
  | .utf8, bytes => Utf8.decode bytes
  | .utf16le, bytes => Utf16.decode .little bytes
  | .utf16be, bytes => Utf16.decode .big bytes
  | .shiftJis, bytes => ShiftJis.decode bytes
  | .iso2022Jp, bytes => Iso2022Jp.decode bytes
  | .windows1252, bytes => bytes.map SingleByte.read1252
  | .userDefined, bytes => bytes.map SingleByte.readUserDefined
  | .replacement, bytes => if bytes = [] then [] else [Utf8.replacement]
  | _, bytes => bytes.map SingleByte.readAscii

/-- Read bytes as text. -/
def decode (e : Encoding) (bytes : List UInt8) : List Char :=
  decodeUnmarked e (dropBytes e.mark bytes)

/-- The bytes of a character, if the encoding has it, where they do not depend on what is written
before. -/
def encodeChar? : Encoding → Char → Option (List UInt8)
  | .utf8, c | .utf16le, c | .utf16be, c | .replacement, c => some (Utf8.encodeChar c)
  | .shiftJis, c => ShiftJis.encodeChar? c
  | .windows1252, c => (SingleByte.write1252? c).map ([·])
  | .userDefined, c => (SingleByte.writeUserDefined? c).map ([·])
  | _, c => (SingleByte.writeAscii? c).map ([·])

/-- The numeric reference that stands for a character an encoding lacks. -/
def reference (c : Char) : List Char := ['&', '#'] ++ Text.digits 10 c.toNat ++ [';']

/-- The bytes that stand for a character an encoding lacks. -/
def substitute (c : Char) : List UInt8 := Utf8.encode (reference c)

/-- Write text as bytes. -/
def encode : Encoding → List Char → List UInt8
  | .iso2022Jp, s => Iso2022Jp.encode substitute s
  | e, s => s.flatMap fun c => (encodeChar? e c).getD (substitute c)

/-- UTF-8 is written as it is. -/
theorem encode_utf8 (s : List Char) : encode .utf8 s = Utf8.encode s := by
  simp [encode, encodeChar?, Utf8.encode]

end VocalScore.Encoding
