import VocalScore.Text.Quoted
import VocalScore.Score.Section

/-!
# What can be wrong with a score

Each constructor of `ScoreError` is one cause; `message` puts it into words. A cause inside a
note section is wrapped once, together with the name of the section, and `root` looks through
the wrapping.
-/

namespace VocalScore

/-- Why a score cannot be read. -/
inductive ScoreError where
  /-- A line that fits no rule of the section format. -/
  | malformed (fault : Malformed)
  /-- A required key that is absent or empty. -/
  | missingField (sectionName field : String)
  /-- No tempo is set. -/
  | missingTempo
  /-- A value that is not a number, or not one in range. -/
  | invalidNumber (field raw : String)
  /-- An item of a list that is not a number. -/
  | invalidListItem (field : String) (index : Nat) (raw : String)
  /-- A value that is not a word for true or false. -/
  | invalidFlag (field raw : String)
  /-- An envelope with less than seven values. -/
  | tooFewEnvelopeValues (count : Nat)
  /-- An envelope with more than nine values. -/
  | tooManyEnvelopeValues (count : Nat)
  /-- A code that names no interpolation. -/
  | invalidMode (code : String)
  /-- A bend type that is not a whole number of 32 bits. -/
  | invalidBendType (raw : String)
  /-- A version line that names no known version. -/
  | invalidVersion (line : String)
  /-- A declared encoding that does not exist. -/
  | unknownEncoding (label : String)
  /-- A cause inside a note section. -/
  | inNote (sectionName : String) (cause : ScoreError)
  deriving DecidableEq, Repr

namespace ScoreError

/-- The error in words. -/
def message : ScoreError → String
  | malformed m => "malformed UST at line " ++ Text.decimalString m.line ++ ": " ++ m.fault.reason
  | missingField s f => "missing required field " ++ f ++ " in section " ++ s
  | missingTempo => "missing or empty Tempo in #SETTING"
  | invalidNumber f raw => "invalid number for " ++ f ++ ": " ++ Text.quoted raw
  | invalidListItem f i raw =>
    "invalid value at index " ++ Text.decimalString i ++ " of " ++ f ++ ": " ++ Text.quoted raw
  | invalidFlag f raw => "invalid boolean for " ++ f ++ ": " ++ Text.quoted raw
  | tooFewEnvelopeValues n =>
    "envelope must contain at least 7 values, got " ++ Text.decimalString n
  | tooManyEnvelopeValues n =>
    "envelope must contain at most 9 values, got " ++ Text.decimalString n
  | invalidMode code => "invalid pitch bend mode: " ++ Text.quoted code
  | invalidBendType raw => "invalid pitch bend type: " ++ Text.quoted raw
  | invalidVersion line => "invalid version string: " ++ Text.quoted line
  | unknownEncoding label => "unknown character encoding: " ++ Text.quoted label
  | inNote s cause => "note " ++ s ++ ": " ++ cause.message

/-- The cause without the note sections around it. -/
def root : ScoreError → ScoreError
  | inNote _ cause => cause.root
  | e => e

/-- A cause is never itself a wrapped one. -/
theorem root_ne_inNote (e : ScoreError) (s : String) (c : ScoreError) : e.root ≠ .inNote s c := by
  induction e with
  | inNote _ cause ih => exact ih
  | _ => simp [root]

end ScoreError

end VocalScore
