import VocalScore.Curve.Json
import VocalScore.Timeline.Basic

/-!
# Timelines as JSON

A timeline is a record of what it says about the piece, its notes and its length. Positions and
durations are whole numbers of ticks.
-/

namespace VocalScore

/-- The JSON form of a position or a duration. -/
def Tick.toJson (t : Tick) : Json := .whole t.count.toNat

/-- Read a position or a duration. -/
def Tick.ofJson? (j : Json) : Option Tick :=
  (j.nat? (UInt64.size - 1)).map fun n => ⟨UInt64.ofNat n⟩

namespace Metadata

/-- The names of the fields of the metadata. -/
def fieldNames : List String := ["name", "voicebank_path", "output_path", "resolution", "tempo"]

/-- The JSON form of the metadata. -/
def toJson (m : Metadata) : Json :=
  .record (fieldNames.zip [.text m.name, .text m.voicebankPath, .text m.outputPath,
    .whole m.resolution.toNat, .real m.tempo])

/-- Read the metadata. -/
def ofJson? (j : Json) : Option Metadata := do
  match ← j.slots? fieldNames with
  | [name, voicebankPath, outputPath, resolution, tempo] =>
    return { name := ← name.required Json.text?
             voicebankPath := ← voicebankPath.required Json.text?
             outputPath := ← outputPath.required Json.text?
             resolution := UInt32.ofNat (← resolution.required (Json.nat? (UInt32.size - 1)))
             tempo := ← tempo.required Json.real? }
  | _ => none

end Metadata

namespace PlacedNote

/-- The names of the fields of a note. -/
def fieldNames : List String :=
  ["position", "duration", "lyric", "note_num", "intensity", "pre_utterance", "voice_overlap",
    "start_point", "envelope", "pitch"]

/-- The JSON form of a note. -/
def toJson (n : PlacedNote) : Json :=
  .record (fieldNames.zip [n.position.toJson, n.duration.toJson, .text n.lyric,
    .whole n.pitch.toNat, .real n.intensity, .optional .real n.preUtterance,
    .optional .real n.voiceOverlap, .optional .real n.startPoint, n.envelope.toJson,
    n.bend.toJson])

/-- Read a note. -/
def ofJson? (j : Json) : Option PlacedNote := do
  match ← j.slots? fieldNames with
  | [position, duration, lyric, pitch, intensity, preUtterance, voiceOverlap, startPoint,
      envelope, bend] =>
    return { position := ← position.required Tick.ofJson?
             duration := ← duration.required Tick.ofJson?
             lyric := ← lyric.required Json.text?
             pitch := UInt8.ofNat (← pitch.required (Json.nat? 255))
             intensity := ← intensity.required Json.real?
             preUtterance := ← preUtterance.nullable Json.real?
             voiceOverlap := ← voiceOverlap.nullable Json.real?
             startPoint := ← startPoint.nullable Json.real?
             envelope := ← envelope.required Curve.ofJson?
             bend := ← bend.required Curve.ofJson? }
  | _ => none

end PlacedNote

namespace Timeline

/-- The names of the fields of a timeline. -/
def fieldNames : List String := ["metadata", "notes", "length"]

/-- The JSON form of a timeline. -/
def toJson (t : Timeline) : Json :=
  .record (fieldNames.zip [t.metadata.toJson, .list PlacedNote.toJson t.notes, t.length.toJson])

/-- Read a timeline. -/
def ofJson? (j : Json) : Option Timeline := do
  match ← j.slots? fieldNames with
  | [metadata, notes, length] =>
    return { metadata := ← metadata.required Metadata.ofJson?
             notes := ← notes.required (Json.list? PlacedNote.ofJson?)
             length := ← length.required Tick.ofJson? }
  | _ => none

end Timeline

end VocalScore
