import VocalScore.Number.Decimal
import VocalScore.Voicebank.Error

/-!
# Names of pitches

A pitch has a letter, an accidental and an octave, as in `C5`, `F#4` or `Eb5`. The letter `H`
is B natural, and `Hb` is B flat. Octaves are counted from 0, so that `C5` is the MIDI pitch
60, or from -1, so that `C4` is.

`read` accepts letters and accidentals in either case, and octaves of 64 bits. The pitch is
computed within 64 bits; a result beyond them stays at the end of their range, and the range of
MIDI is checked last.
-/

namespace VocalScore

/-- Which octave the lowest MIDI pitch belongs to. -/
inductive OctaveNumbering where
  /-- `C0` is 0 and `C5` is 60. -/
  | c0
  /-- `C-1` is 0 and `C4` is 60. -/
  | cMinus1
  deriving DecidableEq, Repr

namespace OctaveNumbering

/-- The number of the lowest octave. -/
def lowest : OctaveNumbering → Int
  | c0 => 0
  | cMinus1 => -1

/-- The name of a numbering. -/
def name : OctaveNumbering → String
  | c0 => "c0"
  | cMinus1 => "c-1"

/-- Every numbering. -/
def all : List OctaveNumbering := [c0, cMinus1]

/-- The numbering with a name. -/
def ofName? (s : String) : Option OctaveNumbering := all.find? (·.name == s)

/-- A numbering is found by its name. -/
theorem ofName?_name (o : OctaveNumbering) : ofName? o.name = some o := by cases o <;> decide

end OctaveNumbering

namespace PitchName

/-- The sign after the letter of a pitch. -/
inductive Accidental where
  | natural
  | sharp
  | flat
  deriving DecidableEq, Repr

/-- The semitones of a letter, in upper case, and an accidental above C; not every pair is in
use. -/
def semitone? : Char → Accidental → Option Nat
  | 'C', .natural => some 0
  | 'C', .sharp => some 1
  | 'D', .flat => some 1
  | 'D', .natural => some 2
  | 'D', .sharp => some 3
  | 'E', .flat => some 3
  | 'E', .natural => some 4
  | 'F', .natural => some 5
  | 'F', .sharp => some 6
  | 'G', .flat => some 6
  | 'G', .natural => some 7
  | 'G', .sharp => some 8
  | 'A', .flat => some 8
  | 'A', .natural => some 9
  | 'A', .sharp => some 10
  | 'B', .flat => some 10
  | 'H', .flat => some 10
  | 'B', .natural => some 11
  | 'H', .natural => some 11
  | _, _ => none

/-- Split off an accidental. -/
def spanAccidental : List Char → Accidental × List Char
  | [] => (.natural, [])
  | c :: r =>
    if c = '#' then (.sharp, r)
    else if c = 'b' ∨ c = 'B' then (.flat, r)
    else (.natural, c :: r)

/-- The least number of 64 bits. -/
def minInt64 : Int := Int64.minValue.toInt

/-- The greatest number of 64 bits. -/
def maxInt64 : Int := Int64.maxValue.toInt

/-- Keep a number within 64 bits. -/
def saturate (n : Int) : Int := max minInt64 (min maxInt64 n)

/-- Read an octave: digits, with a minus sign if it is negative. -/
def readOctave? : List Char → Option Int
  | '+' :: _ => none
  | s => Number.readInt minInt64 maxInt64 s

/-- The semitones and the octave of a trimmed name. -/
def parts? : List Char → Option (Nat × Int)
  | [] => none
  | letter :: r =>
    let (accidental, r) := spanAccidental r
    match semitone? letter.toUpper accidental, readOctave? r with
    | some s, some o => some (s, o)
    | _, _ => none

/-- The MIDI number of a semitone in an octave. -/
def midi (octaves : OctaveNumbering) (semitone : Nat) (octave : Int) : Int :=
  -- Every step of the computation stays within 64 bits by itself.
  saturate (saturate (saturate (octave - octaves.lowest) * 12) + semitone)

/-- Read the name of a pitch, which may have white space around it. -/
def read (octaves : OctaveNumbering) (name : String) : Except VoicebankError UInt8 :=
  -- A name without sense is quoted as it stands, one out of range without its white space.
  let t := Text.trim name.toList
  match parts? t with
  | none => .error (.invalidPitchName name)
  | some (semitone, octave) =>
    let n := midi octaves semitone octave
    if 0 ≤ n ∧ n ≤ 127 then .ok (UInt8.ofNat n.toNat)
    else .error (.pitchOutOfRange (String.ofList t) n)

/-- The letters of the twelve semitones, with accidentals as sharps or as flats. -/
def spellings (sharps : Bool) : List String :=
  if sharps then ["C", "C#", "D", "D#", "E", "F", "F#", "G", "G#", "A", "A#", "B"]
  else ["C", "Db", "D", "Eb", "E", "F", "Gb", "G", "Ab", "A", "Bb", "B"]

/-- The name of a pitch. -/
def render (sharps : Bool) (octaves : OctaveNumbering) (pitch : UInt8) : List Char :=
  ((spellings sharps).getD (pitch.toNat % 12) "").toList
    ++ Text.decimal ((pitch.toNat / 12 : Nat) + octaves.lowest)

end PitchName

end VocalScore
