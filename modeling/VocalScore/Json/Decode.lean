import VocalScore.Json.Numeral
import VocalScore.Json.Basic
import VocalScore.Record

/-!
# What JSON values stand for

Each function reads a value as one kind of data. Whole numbers are numerals without point and
exponent; a binary64 number may be any numeral. Null stands only for an optional value that is
not there. One of several names is a string, or an object with that name as its only key and
null.
-/

namespace VocalScore.Json

/-- The text of a string. -/
def text? : Json → Option String
  | .string s => (unescape? s).map String.ofList
  | _ => none

/-- A truth value. -/
def bool? : Json → Option Bool
  | .bool b => some b
  | _ => none

/-- What a number stands for. -/
def quantity? : Json → Option Quantity
  | .number s =>
    match Numeral.span s with
    -- A numeral that goes on is none.
    | some (n, []) => n.value?
    | _ => none
  | _ => none

/-- A binary64 number. -/
def real? (j : Json) : Option Float :=
  j.quantity?.map fun
    | .whole n => Numeral.ofWhole n
    | .real x => x

/-- A whole number between two bounds. -/
def whole? (lo hi : Int) (j : Json) : Option Int :=
  match j.quantity? with
  | some (.whole n) => if lo ≤ n ∧ n ≤ hi then some n else none
  | _ => none

/-- A whole number from zero to a bound. -/
def nat? (bound : Nat) (j : Json) : Option Nat := (j.whole? 0 bound).map Int.toNat

/-- The only character of a string. -/
def char? (j : Json) : Option Char :=
  match j.text?.map String.toList with
  | some [c] => some c
  | _ => none

/-- A value that may be null. -/
def optional? (f : Json → Option α) : Json → Option (Option α)
  | .null => some none
  | j => (f j).map some

/-- The items of an array. -/
def list? (f : Json → Option α) : Json → Option (List α)
  | .array js => js.mapM f
  | _ => none

/-- The name of one of several choices. -/
def name? : Json → Option String
  | .string s => text? (.string s)
  | .object [(k, .null)] => text? (.string k)
  | _ => none

/-- The members of an object with the texts of their keys. -/
def members? (ms : List (List Char × Json)) : Option (List (String × Json)) :=
  ms.mapM fun (k, j) => (text? (.string k)).map (·, j)

/-- The slots of the fields of a record. -/
def slots? (names : List String) : Json → Option (List (Slot Json))
  | .object ms => (members? ms).bind (Slot.ofMembers? names)
  | .array js => Slot.ofItems? names.length js
  | _ => none

end VocalScore.Json

namespace VocalScore.Slot

/-- Read a field that may be null, and whose member may be missing. -/
def nullable (f : Json → Option α) : Slot Json → Option (Option α) :=
  orMissing none (Json.optional? f)

end VocalScore.Slot
