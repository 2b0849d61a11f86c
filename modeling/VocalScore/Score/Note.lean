import VocalScore.Score.Envelope
import VocalScore.Score.PitchBend

/-!
# Notes

A note section has a length in ticks, a pitch and a lyric; its other keys may be left out or
left blank. A timing value left out is the voicebank's choice, which is not the same as zero.
-/

namespace VocalScore

/-- A note of a score. -/
structure Note where
  length : UInt32
  lyric : String
  pitch : UInt8
  intensity : Float
  velocity : Option Float
  modulation : Float
  preUtterance : Option Float
  voiceOverlap : Option Float
  startPoint : Option Float
  envelope : Option Envelope
  pitchBend : Option PitchBend
  deriving DecidableEq, Repr

namespace Note

/-- The volume of a note that names none, in percent. -/
def defaultIntensity : Float := 100.0

/-- The lyrics of a rest; the case of the letter matters. -/
def isRestLyric (lyric : String) : Bool := lyric == "R" || lyric == "-"

/-- A note with its required values only. -/
def plain (length : UInt32) (lyric : String) (pitch : UInt8) : Note :=
  { length, lyric, pitch, intensity := defaultIntensity, velocity := none, modulation := 0.0,
    preUtterance := none, voiceOverlap := none, startPoint := none, envelope := none,
    pitchBend := none }

/-- Whether a note is a rest. -/
def isRest (n : Note) : Bool := isRestLyric n.lyric

/-- The value of a key that has to be there and not empty. -/
def required (s : Section) (key : String) : Except ScoreError String :=
  match s.get? key with
  | none => .error (.missingField s.name key)
  | some v => if v = "" then .error (.missingField s.name key) else .ok v

/-- A required whole number up to a bound. -/
def requiredNat (s : Section) (key : String) (bound : Nat) : Except ScoreError Nat := do
  let raw ← required s key
  match Number.readNat bound raw.toList with
  | some n => .ok n
  | none => .error (.invalidNumber key raw)

/-- The value of a key read with `f`, unless it is empty. -/
def readUnless (s : Section) (key : String) (f : String → Except ScoreError α) :
    Except ScoreError (Option α) :=
  if s.value key = "" then .ok none else (f (s.value key)).map some

/-- The number of a key that may be left out. -/
def optional (s : Section) (key : String) : Except ScoreError (Option Float) :=
  Field.optionalNumber key (s.value key)

/-- The bend of a note, which exists if a starting point is given, blank or not. -/
def readBend (s : Section) : Except ScoreError (Option PitchBend) :=
  if s.has "PBS" || s.has "PBStart" then
    (PitchBend.read (s.value "PBType") (s.value "PBStart") (s.value "PBS") (s.value "PBW")
      (s.value "PBY") (s.value "PBM")).map some
  else .ok none

/-- Read a note from its section. -/
def ofSection (s : Section) : Except ScoreError Note := do
  let length ← requiredNat s "Length" (UInt32.size - 1)
  let pitch ← requiredNat s "NoteNum" 127
  -- Unlike the numbers, a lyric may be empty.
  let lyric ← match s.get? "Lyric" with
    | some v => .ok (Text.trimmed v)
    | none => .error (.missingField s.name "Lyric")
  -- What may be left out comes last; the first key that is wrong is the error.
  let intensity ← readUnless s "Intensity" (Field.number "Intensity")
  let envelope ← readUnless s "Envelope" Envelope.read
  let pitchBend ← readBend s
  let velocity ← optional s "Velocity"
  let modulation ← optional s "Modulation"
  let preUtterance ← optional s "PreUtterance"
  let voiceOverlap ← optional s "VoiceOverlap"
  let startPoint ← optional s "StartPoint"
  .ok { length := UInt32.ofNat length, lyric, pitch := UInt8.ofNat pitch,
        intensity := intensity.getD defaultIntensity, velocity,
        modulation := modulation.getD 0.0, preUtterance, voiceOverlap, startPoint, envelope,
        pitchBend }

end Note

end VocalScore
