import VocalScore.Curve.Json
import VocalScore.Score.Basic

/-!
# Scores as JSON

A score is a record of its version, its settings and its notes. A value of an envelope is
`"Auto"` or a record with its number; what a note leaves out is null.
-/

namespace VocalScore

namespace Version

/-- The name of a version in data. -/
def name : Version → String
  | v1_2 => "V1_2"
  | v2_0 => "V2_0"

/-- Every version. -/
def all : List Version := [v1_2, v2_0]

/-- The version with a name. -/
def ofName? (s : String) : Option Version := all.find? (·.name == s)

/-- A version is found by its name. -/
theorem ofName?_name (v : Version) : ofName? v.name = some v := by cases v <;> decide

/-- The JSON form of a version. -/
def toJson (v : Version) : Json := .text v.name

/-- Read a version. -/
def ofJson? (j : Json) : Option Version := j.name?.bind ofName?

end Version

namespace EnvelopeValue

/-- The JSON form of a value. -/
def toJson : EnvelopeValue → Json
  | auto => .text "Auto"
  | literal x => .record [("Value", .real x)]

/-- Read a value. -/
def ofJson? : Json → Option EnvelopeValue
  | .object [(k, j)] =>
    match Json.text? (.string k) with
    | some "Value" => j.real?.map literal
    | _ => if Json.name? (.object [(k, j)]) = some "Auto" then some auto else none
  | j => if j.name? = some "Auto" then some auto else none

end EnvelopeValue

namespace Envelope

/-- The names of the fields of an envelope. -/
def fieldNames : List String := ["p1", "p2", "p3", "v1", "v2", "v3", "v4", "p4", "p5", "v5"]

/-- The JSON form of an envelope. -/
def toJson (e : Envelope) : Json :=
  .record (fieldNames.zip [e.p1.toJson, e.p2.toJson, e.p3.toJson, e.v1.toJson, e.v2.toJson,
    e.v3.toJson, e.v4.toJson, e.p4.toJson, e.p5.toJson, e.v5.toJson])

/-- Read an envelope. -/
def ofJson? (j : Json) : Option Envelope := do
  match ← j.slots? fieldNames with
  | [p1, p2, p3, v1, v2, v3, v4, p4, p5, v5] =>
    return { p1 := ← p1.required EnvelopeValue.ofJson?
             p2 := ← p2.required EnvelopeValue.ofJson?
             p3 := ← p3.required EnvelopeValue.ofJson?
             v1 := ← v1.required EnvelopeValue.ofJson?
             v2 := ← v2.required EnvelopeValue.ofJson?
             v3 := ← v3.required EnvelopeValue.ofJson?
             v4 := ← v4.required EnvelopeValue.ofJson?
             p4 := ← p4.required EnvelopeValue.ofJson?
             p5 := ← p5.required EnvelopeValue.ofJson?
             v5 := ← v5.required EnvelopeValue.ofJson? }
  | _ => none

end Envelope

namespace BendPoint

/-- The names of the fields of a point. -/
def fieldNames : List String := ["x", "y"]

/-- The JSON form of a point. -/
def toJson (p : BendPoint) : Json := .record (fieldNames.zip [.real p.x, .real p.y])

/-- Read a point. -/
def ofJson? (j : Json) : Option BendPoint := do
  match ← j.slots? fieldNames with
  | [x, y] => return { x := ← x.required Json.real?, y := ← y.required Json.real? }
  | _ => none

end BendPoint

namespace PitchBend

/-- The names of the fields of a bend. -/
def fieldNames : List String := ["pb_type", "start", "widths", "ys", "modes"]

/-- The JSON form of a bend. -/
def toJson (b : PitchBend) : Json :=
  .record (fieldNames.zip [.whole b.kind.toInt, b.start.toJson, .list .real b.widths,
    .list .real b.ys, .list Interpolation.toJson b.modes])

/-- Read a bend. -/
def ofJson? (j : Json) : Option PitchBend := do
  match ← j.slots? fieldNames with
  | [kind, start, widths, ys, modes] =>
    let kind ← kind.required (Json.whole? Int32.minValue.toInt Int32.maxValue.toInt)
    return { kind := Int32.ofInt kind
             start := ← start.required BendPoint.ofJson?
             widths := ← widths.required (Json.list? Json.real?)
             ys := ← ys.required (Json.list? Json.real?)
             modes := ← modes.required (Json.list? Interpolation.ofJson?) }
  | _ => none

end PitchBend

namespace Note

/-- The names of the fields of a note. -/
def fieldNames : List String :=
  ["length", "lyric", "note_num", "intensity", "velocity", "modulation", "pre_utterance",
    "voice_overlap", "start_point", "envelope", "pitch_bend"]

/-- The JSON form of a note. -/
def toJson (n : Note) : Json :=
  .record (fieldNames.zip [.whole n.length.toNat, .text n.lyric, .whole n.pitch.toNat,
    .real n.intensity, .optional .real n.velocity, .real n.modulation,
    .optional .real n.preUtterance, .optional .real n.voiceOverlap,
    .optional .real n.startPoint, .optional Envelope.toJson n.envelope,
    .optional PitchBend.toJson n.pitchBend])

/-- Read a note. -/
def ofJson? (j : Json) : Option Note := do
  match ← j.slots? fieldNames with
  | [length, lyric, pitch, intensity, velocity, modulation, preUtterance, voiceOverlap,
      startPoint, envelope, pitchBend] =>
    return { length := UInt32.ofNat (← length.required (Json.nat? (UInt32.size - 1)))
             lyric := ← lyric.required Json.text?
             pitch := UInt8.ofNat (← pitch.required (Json.nat? 255))
             intensity := ← intensity.required Json.real?
             velocity := ← velocity.nullable Json.real?
             modulation := ← modulation.required Json.real?
             preUtterance := ← preUtterance.nullable Json.real?
             voiceOverlap := ← voiceOverlap.nullable Json.real?
             startPoint := ← startPoint.nullable Json.real?
             envelope := ← envelope.nullable Envelope.ofJson?
             pitchBend := ← pitchBend.nullable PitchBend.ofJson? }
  | _ => none

end Note

namespace Settings

/-- The names of the fields of the settings. -/
def fieldNames : List String :=
  ["tempo", "project_name", "project", "voice_dir", "out_file", "cache_dir", "tool1", "tool2",
    "mode2"]

/-- The JSON form of the settings. -/
def toJson (s : Settings) : Json :=
  .record (fieldNames.zip [.real s.tempo, .text s.projectName, .text s.project,
    .text s.voiceDir, .text s.outFile, .text s.cacheDir, .text s.tool1, .text s.tool2,
    .bool s.mode2])

/-- Read settings. -/
def ofJson? (j : Json) : Option Settings := do
  match ← j.slots? fieldNames with
  | [tempo, projectName, project, voiceDir, outFile, cacheDir, tool1, tool2, mode2] =>
    return { tempo := ← tempo.required Json.real?
             projectName := ← projectName.required Json.text?
             project := ← project.required Json.text?
             voiceDir := ← voiceDir.required Json.text?
             outFile := ← outFile.required Json.text?
             cacheDir := ← cacheDir.required Json.text?
             tool1 := ← tool1.required Json.text?
             tool2 := ← tool2.required Json.text?
             mode2 := ← mode2.required Json.bool? }
  | _ => none

end Settings

namespace Score

/-- The names of the fields of a score. -/
def fieldNames : List String := ["version", "settings", "notes"]

/-- The JSON form of a score. -/
def toJson (s : Score) : Json :=
  .record (fieldNames.zip [s.version.toJson, s.settings.toJson, .list Note.toJson s.notes])

/-- Read a score. -/
def ofJson? (j : Json) : Option Score := do
  match ← j.slots? fieldNames with
  | [version, settings, notes] =>
    return { version := ← version.required Version.ofJson?
             settings := ← settings.required Settings.ofJson?
             notes := ← notes.required (Json.list? Note.ofJson?) }
  | _ => none

end Score

end VocalScore
