import VocalScore.Json.Escape
import VocalScore.Number.Layout

/-!
# JSON values

A value keeps its numbers, strings and keys as they are spelled in the text, and the members of
an object in their order, repeated keys included. What they stand for is asked only where a
value is used, so that a part of a text that nobody uses need not stand for anything.
-/

namespace VocalScore

/-- A JSON value, its leaves as they are spelled. -/
inductive Json where
  | null
  | bool (b : Bool)
  | number (spelling : List Char)
  | string (spelling : List Char)
  | array (items : List Json)
  | object (members : List (List Char × Json))

namespace Json

/-- The string of a text. -/
def text (s : String) : Json := .string (escape s.toList)

/-- The number of a whole number. -/
def whole (n : Int) : Json := .number (Text.decimal n)

/-- The number of a binary64 number; what is not finite becomes null. -/
def real (x : Float) : Json :=
  if x.isFinite then .number (NumberStyle.json.render x) else .null

/-- The string of one character. -/
def char (c : Char) : Json := text (String.ofList [c])

/-- A value, or null for none. -/
def optional (f : α → Json) : Option α → Json
  | some x => f x
  | none => null

/-- The array of a list. -/
def list (f : α → Json) (xs : List α) : Json := .array (xs.map f)

/-- The object with the given members. -/
def record (members : List (String × Json)) : Json :=
  .object (members.map fun (k, v) => (escape k.toList, v))

end Json

end VocalScore
