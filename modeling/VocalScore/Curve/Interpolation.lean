/-!
# Ways from one point of a curve to the next

A score names an interpolation by a one-letter code. `Interpolation.between` gives the value at
a position between 0 and 1; a position outside is moved to the nearer end.
-/

namespace VocalScore

/-- How a curve travels from one point to the next. -/
inductive Interpolation where
  /-- In a straight line. -/
  | linear
  /-- Along half a period of a cosine, flat at both ends. -/
  | sine
  /-- Not at all: the first value is held. -/
  | rigid
  /-- At once: the second value holds as soon as the first is left. -/
  | jump
  deriving DecidableEq, Repr

namespace Interpolation

/-- The code of an interpolation in a score. -/
def code : Interpolation → String
  | linear => "l"
  | sine => "s"
  | rigid => "r"
  | jump => "j"

/-- The name of an interpolation. -/
def name : Interpolation → String
  | linear => "Linear"
  | sine => "Sine"
  | rigid => "Rigid"
  | jump => "Jump"

/-- Every interpolation. -/
def all : List Interpolation := [linear, sine, rigid, jump]

/-- The interpolation with a code; the case of the letter matters. -/
def ofCode? : String → Option Interpolation
  | "l" => some linear
  | "s" => some sine
  | "r" => some rigid
  | "j" => some jump
  | _ => none

/-- A mode is found by its code. -/
theorem ofCode?_code (i : Interpolation) : ofCode? i.code = some i := by cases i <;> decide

/-- The ratio of a circle's circumference to its diameter. -/
def pi : Float := 3.141592653589793

/-- Move a position into the range from 0 to 1; what is not a number stays so. -/
def clampUnit (t : Float) : Float :=
  let t := if t < 0.0 then 0.0 else t
  if 1.0 < t then 1.0 else t

/-- The value at position `t` of the way from `a` to `b`. -/
def between (mode : Interpolation) (a b t : Float) : Float :=
  let t := clampUnit t
  match mode with
  | linear => a * (1.0 - t) + b * t
  | sine => a + (b - a) * (0.5 - 0.5 * (pi * t).cos)
  | rigid => a
  | jump => if t ≤ 0.0 then a else b

end Interpolation

end VocalScore
