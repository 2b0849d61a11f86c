import VocalScore.Curve.Interpolation

/-!
# Curves through points in time

A curve is a list of points, in milliseconds from the start of a note. Before the first point
and after the last their values are held; in between, `valueAt` takes the first pair of
neighbours whose span holds the moment and follows the interpolation of the earlier one.
-/

namespace VocalScore

/-- A point of a curve; `mode` is the way toward the next point. -/
structure CurvePoint where
  x : Float
  y : Float
  mode : Interpolation
  deriving DecidableEq, Repr

/-- A curve, earliest point first. The empty list stands for no curve. -/
abbrev Curve := List CurvePoint

namespace CurvePoint

/-- Whether a moment lies in the span from a point to the next. -/
def spans (p q : CurvePoint) (ms : Float) : Bool := p.x ≤ ms && ms ≤ q.x

/-- The value at a moment in the span from a point to the next. A span without length has the
value of its end. -/
def toward (p q : CurvePoint) (ms : Float) : Float :=
  let span := q.x - p.x
  if span ≤ 0.0 then q.y else p.mode.between p.y q.y ((ms - p.x) / span)

end CurvePoint

namespace Curve

/-- The value at a moment after the first point. -/
def along : Curve → Float → Option Float
  | [], _ => none
  | [p], _ => some p.y
  -- Of two spans that share the moment the earlier one answers.
  | p :: q :: r, ms => if p.spans q ms then some (p.toward q ms) else along (q :: r) ms

/-- The value of a curve at a moment; the empty curve has none. -/
def valueAt (c : Curve) (ms : Float) : Option Float :=
  match c with
  | [] => none
  | p :: _ => if ms ≤ p.x then some p.y else along c ms

@[simp] theorem valueAt_nil (ms : Float) : valueAt [] ms = none := rfl

/-- A single point has its value everywhere. -/
@[simp] theorem valueAt_singleton (p : CurvePoint) (ms : Float) : valueAt [p] ms = some p.y := by
  simp only [valueAt, along, ite_self]

/-- A curve with a point has a value everywhere. -/
theorem isSome_valueAt {c : Curve} (h : c ≠ []) (ms : Float) : (c.valueAt ms).isSome := by
  have along_isSome : ∀ (p : CurvePoint) (r : Curve), (along (p :: r) ms).isSome := by
    intro p r
    induction r generalizing p with
    | nil => rfl
    | cons q r ih => simp only [along]; split <;> simp [ih]
  cases c with
  | nil => exact absurd rfl h
  | cons p r => simp only [valueAt]; split <;> simp [along_isSome]

end Curve

end VocalScore
