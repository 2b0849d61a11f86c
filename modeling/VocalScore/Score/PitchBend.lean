import VocalScore.Number.Layout
import VocalScore.Curve.Basic
import VocalScore.Score.Field

/-!
# Pitch bends

A bend starts at a point relative to the note, in ticks and semitones, and goes through a chain
of segments: segment `i` is `widths[i]` ticks wide and ends at `ys[i]` semitones, which it
reaches in the manner of `modes[i]`.

Two readings of the chain are given. `toCurve` has one point per segment start and one at the
end; there a missing height is 0 and a missing mode is `sine`. `samples` divides each segment
that has a height into ten steps; there a missing mode is `linear`.
-/

namespace VocalScore

/-- A point in ticks and semitones. -/
structure BendPoint where
  x : Float
  y : Float
  deriving DecidableEq, Repr

/-- A pitch bend. -/
structure PitchBend where
  kind : Int32
  start : BendPoint
  widths : List Float
  ys : List Float
  modes : List Interpolation
  deriving DecidableEq, Repr

namespace PitchBend

/-- The type of a bend that names none. -/
def defaultKind : Int32 := 5

/-- The mode of a segment that names none. -/
def defaultMode : Interpolation := .sine

/-- The start of the note at its own pitch. -/
def origin : BendPoint := ⟨0.0, 0.0⟩

/-- Read the type of a bend. -/
def readKind (s : String) : Except ScoreError Int32 :=
  let t := Text.trim s.toList
  if t = [] then .ok defaultKind
  else match Number.readInt Int32.minValue.toInt Int32.maxValue.toInt t with
    | some n => .ok (Int32.ofInt n)
    | none => .error (.invalidBendType (String.ofList t))

/-- Read a starting point: `x`, or `x;y` where `y` may be blank. -/
def readPoint (s : String) : Except ScoreError BendPoint :=
  match Text.splitOnce ';' s.toList with
  | none => do
    let x ← Field.number "PBStart" s
    .ok ⟨x, 0.0⟩
  -- Only the second number may be blank.
  | some (a, b) => do
    let x ← Field.number "PBStart" (String.ofList a)
    let y ← if b.all Text.isBlank then .ok 0.0 else Field.number "PBStart" (String.ofList b)
    .ok ⟨x, y⟩

/-- Read the starting point: the first of two texts that is not blank, else the origin. -/
def readStart (start fallback : String) : Except ScoreError BendPoint :=
  -- A text that is not blank but wrong is an error, and the other is not tried.
  if !Text.blank start then readPoint start
  else if !Text.blank fallback then readPoint fallback
  else .ok origin

/-- Read a bend from the values of its keys. -/
def read (kind start fallback widths ys modes : String) : Except ScoreError PitchBend := do
  let kind ← readKind kind
  let start ← readStart start fallback
  let modes ← Field.modes modes
  let widths ← Field.numbers "PBW" widths
  let ys ← Field.numbers "PBY" ys
  .ok { kind, start, widths, ys, modes }

/-- Whether a bend does nothing: it starts at the origin and has no segments. -/
def isFlat (b : PitchBend) : Bool := b.start.x == 0.0 && b.start.y == 0.0 && b.widths.isEmpty

/-- Fill a list up to a length. -/
def fillTo (n : Nat) (x : α) (l : List α) : List α := l ++ List.replicate (n - l.length) x

/-- The bend with a height and a mode for every segment. -/
def padded (b : PitchBend) : PitchBend :=
  { b with ys := fillTo b.widths.length 0.0 b.ys,
           modes := fillTo b.widths.length defaultMode b.modes }

/-- The ten steps of a segment, its start included. -/
def positions : List Float := (List.range 11).map fun j => Float.ofNat j / 10.0

/-- The samples of one segment. -/
def segment (p : BendPoint) (width endY : Float) (mode : Interpolation) : List BendPoint :=
  positions.map fun t => ⟨p.x + width * t, mode.between p.y endY t⟩

/-- The samples of the segments from a point on. -/
def samplesFrom (p : BendPoint) :
    List Float → List Float → List Interpolation → List BendPoint
  | w :: ws, y :: ys, ms =>
    segment p w y (ms.headD .linear) ++ samplesFrom ⟨p.x + w, y⟩ ws ys ms.tail
  -- The first segment without a height is the end.
  | _, _, _ => []

/-- The bend in small steps, in ticks and semitones. -/
def samples (b : PitchBend) : List BendPoint := samplesFrom b.start b.widths b.ys b.modes

/-- The control points from a point on; `last` is the mode of the point at the end. -/
def pointsFrom (scale : Float) (p : BendPoint) (last : Interpolation) :
    List Float → List Float → List Interpolation → Curve
  | w :: ws, ys, ms =>
    let mode := ms.headD defaultMode
    ⟨p.x * scale, p.y, mode⟩
      :: pointsFrom scale ⟨p.x + w, ys.headD 0.0⟩ mode ws ys.tail ms.tail
  -- The point at the end has the mode of the segment that leads to it.
  | [], _, _ => [⟨p.x * scale, p.y, last⟩]

/-- The control points of a bend, in milliseconds and semitones, given the milliseconds that a
tick lasts. A flat bend has none. -/
def toCurve (b : PitchBend) (scale : Float) : Curve :=
  if b.isFlat then []
  else pointsFrom scale b.start (b.modes.headD defaultMode) b.widths b.ys b.modes

/-- Each width adds a control point to the start. -/
theorem length_pointsFrom (scale : Float) (p : BendPoint) (last : Interpolation)
    (ws ys : List Float) (ms : List Interpolation) :
    (pointsFrom scale p last ws ys ms).length = ws.length + 1 := by
  induction ws generalizing p last ys ms with
  | nil => rfl
  | cons w ws ih => simp [pointsFrom, ih]

/-- Each segment with a width and a height has eleven samples. -/
theorem length_samplesFrom (p : BendPoint) (ws ys : List Float) (ms : List Interpolation) :
    (samplesFrom p ws ys ms).length = 11 * min ws.length ys.length := by
  induction ws generalizing p ys ms with
  | nil => simp [samplesFrom]
  | cons w ws ih =>
    cases ys with
    | nil => simp [samplesFrom]
    | cons y ys =>
      simp only [samplesFrom, List.length_append, ih, segment, positions, List.length_map,
        List.length_range, List.length_cons]
      omega

end PitchBend

end VocalScore
