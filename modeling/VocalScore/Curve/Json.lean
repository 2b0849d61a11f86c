import VocalScore.Curve.Basic
import VocalScore.Json.Decode

/-!
# Curves as JSON

A curve is the list of its points; an interpolation goes by its name.
-/

namespace VocalScore

namespace Interpolation

/-- The interpolation with a name; the case of the letters matters. -/
def ofName? (s : String) : Option Interpolation := all.find? (·.name == s)

/-- A mode is found by its name. -/
theorem ofName?_name (i : Interpolation) : ofName? i.name = some i := by cases i <;> decide

/-- The JSON form of an interpolation. -/
def toJson (i : Interpolation) : Json := .text i.name

/-- Read an interpolation. -/
def ofJson? (j : Json) : Option Interpolation := j.name?.bind ofName?

end Interpolation

namespace CurvePoint

/-- The names of the fields of a point. -/
def fieldNames : List String := ["x", "y", "interp"]

/-- The JSON form of a point. -/
def toJson (p : CurvePoint) : Json :=
  .record (fieldNames.zip [.real p.x, .real p.y, p.mode.toJson])

/-- Read a point. -/
def ofJson? (j : Json) : Option CurvePoint := do
  match ← j.slots? fieldNames with
  | [x, y, mode] =>
    return { x := ← x.required Json.real?
             y := ← y.required Json.real?
             mode := ← mode.required Interpolation.ofJson? }
  | _ => none

end CurvePoint

/-- The JSON form of a curve. -/
def Curve.toJson (c : Curve) : Json := .list CurvePoint.toJson c

/-- Read a curve. -/
def Curve.ofJson? (j : Json) : Option Curve := j.list? CurvePoint.ofJson?

end VocalScore
