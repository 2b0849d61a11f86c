import VocalScore.Text.Quoted
import VocalScore.Score.Section

/-!
# What can be wrong with a voicebank

Each constructor of `VoicebankError` is one cause; `message` puts it into words.
-/

namespace VocalScore

/-- Why a file of a voicebank cannot be read. -/
inductive VoicebankError where
  /-- A sample line with a wrong number of values. -/
  | entryLength (filename : String) (got : Nat)
  /-- A value of a sample line that is not a number. -/
  | entryValue (field filename raw : String)
  /-- A sample line without `=`. -/
  | missingSeparator (line : Nat)
  /-- A line of a prefix map with less than three fields. -/
  | missingFields (line : Nat)
  /-- A text that names no pitch. -/
  | invalidPitchName (name : String)
  /-- A pitch name outside the range of MIDI. -/
  | pitchOutOfRange (name : String) (midi : Int)
  /-- A line of a manifest that fits no rule of the section format. -/
  | malformed (fault : Malformed)
  deriving DecidableEq, Repr

namespace VoicebankError

/-- The error in words. -/
def message : VoicebankError → String
  | entryLength f n => "invalid oto entry for " ++ Text.quoted f ++ ": expected 6 values, got "
      ++ Text.decimalString n
  | entryValue field f raw =>
    "invalid " ++ field ++ " value for " ++ Text.quoted f ++ ": " ++ Text.quoted raw
  | missingSeparator n => "line " ++ Text.decimalString n ++ ": missing '=' separator"
  | missingFields n =>
    "line " ++ Text.decimalString n ++ ": expected note, prefix and suffix fields"
  | invalidPitchName name => "invalid note name: " ++ Text.quoted name
  | pitchOutOfRange name midi => "note " ++ Text.quoted name
      ++ " is outside the MIDI range (got " ++ Text.decimalString midi ++ ")"
  | malformed m =>
    "malformed install.txt at line " ++ Text.decimalString m.line ++ ": " ++ m.fault.reason

end VoicebankError

end VocalScore
