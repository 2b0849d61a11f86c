import VocalScore.Encoding.Codec

/-!
# Profiles of voicebanks

A profile introduces a voicebank. Its lines hold a key, `=` and a value; lines that do not, or
whose `=` comes first, are free text and are kept. Unknown keys are dropped, and of several
lines with one key the last counts. Paths are written with slashes.
-/

namespace VocalScore

/-- What a voicebank says about itself. -/
structure Profile where
  name : String := ""
  author : String := ""
  website : String := ""
  image : Option String := none
  sample : Option String := none
  extra : String := ""
  deriving DecidableEq, Repr

namespace Profile

/-- A path with slashes for backslashes. -/
def withSlashes (s : List Char) : List Char := s.map fun c => if c = '\\' then '/' else c

/-- Set the field of a key. -/
def set (p : Profile) (key : String) (value : List Char) : Profile :=
  if key = "name" then { p with name := String.ofList value }
  else if key = "author" then { p with author := String.ofList value }
  else if key = "web" then { p with website := String.ofList value }
  else if key = "image" then { p with image := some (String.ofList (withSlashes value)) }
  else if key = "sample" then { p with sample := some (String.ofList (withSlashes value)) }
  else p

/-- Add a line of free text. -/
def addText (p : Profile) (line : List Char) : Profile :=
  { p with extra := p.extra ++ String.ofList (line ++ ['\n']) }

/-- Read one line into a profile. -/
def readLine (p : Profile) (line : List Char) : Profile :=
  match Text.splitOnce '=' line with
  | none => p.addText line
  | some (key, value) =>
    if key = [] then p.addText line else p.set (String.ofList (Text.trim key)) (Text.trim value)

/-- Read the text of a profile; every text is one. -/
def read (text : String) : Profile := (Text.lines text.toList).foldl readLine {}

/-- Read the bytes of a profile. -/
def decode (e : Encoding) (bytes : List UInt8) : Profile := read (String.ofList (e.decode bytes))

end Profile

end VocalScore
