import VocalScore.Number.Layout
import VocalScore.Curve.Basic
import VocalScore.Score.Field

/-!
# Volume envelopes

The text of an envelope is `p1,p2,p3,v1,v2,v3,v4` with up to two more values `p4` and `p5`:
times in milliseconds and volumes in percent. A blank value or `%` leaves the choice to the
reader: a time is then the start of the note, or its end for `p4` and `p5`, and a volume is
zero. The volume at `p5` has no place in the text.
-/

namespace VocalScore

/-- A value of an envelope. -/
inductive EnvelopeValue where
  /-- Left to the reader. -/
  | auto
  /-- A given number. -/
  | literal (x : Float)
  deriving DecidableEq, Repr

namespace EnvelopeValue

/-- Read one value. -/
def read (s : List Char) : Except ScoreError EnvelopeValue :=
  let t := Text.trim s
  if t = [] ∨ t = ['%'] then .ok auto
  else (Field.number "Envelope" (String.ofList t)).map literal

/-- Whether the value is left to the reader. -/
def isAuto : EnvelopeValue → Bool
  | auto => true
  | literal _ => false

/-- The number, or the one given for a value left to the reader. -/
def resolve (v : EnvelopeValue) (x : Float) : Float :=
  match v with
  | auto => x
  | literal y => y

/-- The text of a value. -/
def render : EnvelopeValue → String
  | auto => "%"
  | literal x => Number.plainString x

end EnvelopeValue

/-- A volume envelope: times `p1` to `p5` and the volumes at them. -/
structure Envelope where
  p1 : EnvelopeValue
  p2 : EnvelopeValue
  p3 : EnvelopeValue
  v1 : EnvelopeValue
  v2 : EnvelopeValue
  v3 : EnvelopeValue
  v4 : EnvelopeValue
  p4 : EnvelopeValue
  p5 : EnvelopeValue
  v5 : EnvelopeValue
  deriving DecidableEq, Repr

namespace Envelope

/-- The least number of values in a text. -/
def minValues : Nat := 7

/-- The greatest number of values in a text. -/
def maxValues : Nat := 9

/-- The envelope with the values of a text, in their order there. -/
def ofValues (vs : List EnvelopeValue) : Envelope :=
  let slot (i : Nat) := vs.getD i .auto
  { p1 := slot 0, p2 := slot 1, p3 := slot 2, v1 := slot 3, v2 := slot 4, v3 := slot 5,
    v4 := slot 6, p4 := slot 7, p5 := slot 8, v5 := .auto }

/-- The values of an envelope in the order of a text. -/
def values (e : Envelope) : List EnvelopeValue :=
  [e.p1, e.p2, e.p3, e.v1, e.v2, e.v3, e.v4, e.p4, e.p5]

/-- Read an envelope. The number of values is checked before any value is read. -/
def read (s : String) : Except ScoreError Envelope :=
  let tokens := Text.splitOn ',' s.toList
  if tokens.length < minValues then .error (.tooFewEnvelopeValues tokens.length)
  else if maxValues < tokens.length then .error (.tooManyEnvelopeValues tokens.length)
  else (tokens.mapM EnvelopeValue.read).map ofValues

/-- A point of the volume curve; volumes are parts of one. -/
def point (ms : Float) (volume : EnvelopeValue) : CurvePoint :=
  ⟨ms, volume.resolve 0.0 / 100.0, .linear⟩

/-- The volume curve of a note that lasts `ms` milliseconds. The fifth point appears only if
its time or its volume is given. -/
def toCurve (e : Envelope) (ms : Float) : Curve :=
  [point (e.p1.resolve 0.0) e.v1, point (e.p2.resolve 0.0) e.v2, point (e.p3.resolve 0.0) e.v3,
    point (e.p4.resolve ms) e.v4]
  ++ if e.p5.isAuto && e.v5.isAuto then [] else [point (e.p5.resolve ms) e.v5]

/-- The slots of a text come back from the envelope made of them. -/
theorem values_ofValues (vs : List EnvelopeValue) (h : vs.length = 9) :
    (ofValues vs).values = vs := by
  match vs, h with
  | [_, _, _, _, _, _, _, _, _], _ => rfl

end Envelope

end VocalScore
