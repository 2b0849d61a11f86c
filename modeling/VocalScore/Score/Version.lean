import VocalScore.Score.Error

/-!
# The version of a score

The version block of a score is free text. A line of it that mentions the version has to be
exactly the line of a known version; the last such line counts, and a block without one is of
version 1.2.
-/

namespace VocalScore

/-- A version of the score format. -/
inductive Version where
  | v1_2
  | v2_0
  deriving DecidableEq, Repr

namespace Version

/-- What a version line starts with. -/
def token : String := "UST Version"

/-- The number of a version. -/
def number : Version → String
  | v1_2 => "1.2"
  | v2_0 => "2.0"

/-- The version line of a score. -/
def line (v : Version) : String := token ++ v.number

/-- Read a version line, which may have white space around it. -/
def read (s : String) : Except ScoreError Version :=
  let t := Text.trimmed s
  if t = "UST Version1.2" then .ok v1_2
  else if t = "UST Version2.0" then .ok v2_0
  else .error (.invalidVersion t)

/-- Whether a line mentions the version. -/
def mentioned (s : String) : Bool := Text.occurs token.toList s.toList

/-- The version that lines of a block name, starting from one assumed so far. -/
def ofLines : Version → List String → Except ScoreError Version
  | v, [] => .ok v
  | v, s :: rest => if mentioned s then (read s).bind (ofLines · rest) else ofLines v rest

/-- The version that a block names. -/
def ofBody (body : List String) : Except ScoreError Version := ofLines .v1_2 body

end Version

end VocalScore
