import VocalScore.Score.Basic
import VocalScore.Timeline.Tick

/-!
# Timelines

A timeline places the notes of a score: each note that is not a rest has its position in ticks,
which is the sum of the lengths before it, rests included, and carries its volume and its pitch
as curves in milliseconds.
-/

namespace VocalScore

/-- What a timeline says about the piece as a whole. -/
structure Metadata where
  name : String
  voicebankPath : String
  outputPath : String
  resolution : UInt32
  tempo : Float
  deriving DecidableEq, Repr

/-- A note at its place. -/
structure PlacedNote where
  position : Tick
  duration : Tick
  lyric : String
  pitch : UInt8
  intensity : Float
  preUtterance : Option Float
  voiceOverlap : Option Float
  startPoint : Option Float
  envelope : Curve
  bend : Curve
  deriving DecidableEq, Repr

/-- The notes of a piece in time. -/
structure Timeline where
  metadata : Metadata
  notes : List PlacedNote
  length : Tick
  deriving DecidableEq, Repr

/-- A note at a position. -/
def Note.placeAt (n : Note) (position : Tick) (tempo : Float) : PlacedNote :=
  let duration := Tick.ofLength n.length
  { position, duration, lyric := n.lyric, pitch := n.pitch, intensity := n.intensity,
    preUtterance := n.preUtterance, voiceOverlap := n.voiceOverlap, startPoint := n.startPoint,
    envelope := (n.envelope.map (·.toCurve (duration.toMilliseconds tempo))).getD []
    bend := (n.pitchBend.map (·.toCurve (Tick.milliseconds tempo))).getD [] }

namespace Timeline

/-- The notes that are not rests, placed from a position on. -/
def place (tempo : Float) : Tick → List Note → List PlacedNote
  | _, [] => []
  | position, n :: rest =>
    let later := place tempo (position + Tick.ofLength n.length) rest
    if n.isRest then later else n.placeAt position tempo :: later

/-- The position after notes that start at a position. -/
def after (position : Tick) (notes : List Note) : Tick :=
  notes.foldl (fun p n => p + Tick.ofLength n.length) position

/-- The timeline of a score. -/
def ofScore (s : Score) : Timeline :=
  { metadata :=
      { name := s.settings.projectName, voicebankPath := s.settings.voiceDir,
        outputPath := s.settings.outFile, resolution := Tick.perQuarter,
        tempo := s.settings.tempo }
    notes := place s.settings.tempo .zero s.notes
    length := after .zero s.notes }

/-- Notes that follow are placed from the end of the notes before them. -/
theorem place_append (tempo : Float) (position : Tick) (s t : List Note) :
    place tempo position (s ++ t) = place tempo position s ++ place tempo (after position s) t := by
  induction s generalizing position with
  | nil => rfl
  | cons n s ih =>
    simp only [List.cons_append, place, ih, after, List.foldl_cons]
    split <;> simp

end Timeline

end VocalScore
