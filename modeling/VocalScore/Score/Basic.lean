import VocalScore.Encoding.Declared
import VocalScore.Score.Note
import VocalScore.Score.Settings
import VocalScore.Score.Version

/-!
# Scores

A score is made of the sections of its file up to the end mark: the version, the settings and
the notes, whose sections are named by `#` and digits. `ofSections` reads them in file order;
of several version or settings sections the last counts, notes are kept in order, and any other
section is passed over. The first section that cannot be read is the error of the file.
-/

namespace VocalScore

/-- A score. -/
structure Score where
  version : Version
  settings : Settings
  notes : List Note
  deriving DecidableEq, Repr

/-- How the bytes of a score are read. -/
structure ScoreOptions where
  /-- The encoding of a score that declares none. -/
  fallback : Encoding := .legacy
  /-- How many leading bytes are searched for the declaration. -/
  window : Nat := Encoding.defaultWindow

namespace Score

/-- The name of the version section. -/
def versionName : String := "#VERSION"

/-- The name of the settings section. -/
def settingsName : String := "#SETTING"

/-- The name of the section that ends a score. -/
def endName : String := "#TRACKEND"

/-- Whether a name is `#` followed by digits. -/
def isNoteName (name : String) : Bool :=
  match name.toList with
  | '#' :: ds => ds ≠ [] && ds.all Char.isDigit
  | _ => false

/-- What has been read of a score. -/
structure Draft where
  version : Version
  settings : Option Settings
  notes : List Note

/-- Nothing read yet. -/
def Draft.start : Draft := ⟨.v1_2, none, []⟩

/-- Read one section. -/
def addSection (d : Draft) (s : Section) : Except ScoreError Draft :=
  if s.name = versionName then (Version.ofBody s.body).map fun v => { d with version := v }
  else if s.name = settingsName then
    (Settings.ofSection s).map fun t => { d with settings := some t }
  else if isNoteName s.name then
    ((Note.ofSection s).mapError (.inNote s.name)).map fun n => { d with notes := d.notes ++ [n] }
  else .ok d

/-- Read sections into a draft, up to the end mark. -/
def addSections : Draft → List Section → Except ScoreError Draft
  | d, [] => .ok d
  | d, s :: rest =>
    -- The lines after the end mark have been cut into sections, but what they say is not read.
    if s.name = endName then .ok d else (addSection d s).bind (addSections · rest)

/-- The score of a draft, which has to have settings. -/
def ofDraft (d : Draft) : Except ScoreError Score :=
  match d.settings with
  | some settings => .ok ⟨d.version, settings, d.notes⟩
  | none => .error .missingTempo

/-- The score that sections make. -/
def ofSections (sections : List Section) : Except ScoreError Score :=
  (addSections .start sections).bind ofDraft

/-- Read the text of a score. -/
def read (text : String) : Except ScoreError Score :=
  ((Section.read [versionName] text).mapError .malformed).bind ofSections

/-- Read the bytes of a score in the encoding that they declare. -/
def decode (bytes : List UInt8) (options : ScoreOptions) : Except ScoreError Score :=
  ((Encoding.detect bytes options.window options.fallback).mapError .unknownEncoding).bind
    fun e => read (String.ofList (e.decode bytes))

/-- Sections after the end mark are not read. -/
theorem addSections_end (d : Draft) {s : Section} (h : s.name = endName) (rest : List Section) :
    addSections d (s :: rest) = .ok d := by
  simp [addSections, h]

end Score

end VocalScore
