import VocalScore.Number.Decimal
import VocalScore.Curve.Interpolation
import VocalScore.Score.Error

/-!
# Values of single keys

A key of a score holds a number, a list of numbers between commas, a word for true or false,
or the codes of interpolations. White space around a value does not count; an error quotes the
value as it stands in the file.
-/

namespace VocalScore.Field

/-- A number. -/
def number (field raw : String) : Except ScoreError Float :=
  match Number.read (Text.trim raw.toList) with
  | some x => .ok x
  | none => .error (.invalidNumber field raw)

/-- A number that may be left out. -/
def optionalNumber (field raw : String) : Except ScoreError (Option Float) :=
  if Text.blank raw then .ok none else (number field raw).map some

/-- The items of a list from the given index on. -/
def items (field : String) : Nat → List (List Char) → Except ScoreError (List Float)
  | _, [] => .ok []
  | i, s :: rest =>
    match Number.read (Text.trim s) with
    | none => .error (.invalidListItem field i (String.ofList s))
    | some x => (items field (i + 1) rest).map (x :: ·)

/-- Numbers between commas; a blank value is the empty list. -/
def numbers (field raw : String) : Except ScoreError (List Float) :=
  if Text.blank raw then .ok [] else items field 0 (Text.splitOn ',' raw.toList)

/-- The words for true. -/
def trueWords : List String := ["1", "t", "true", "y", "yes", "on"]

/-- The words for false. -/
def falseWords : List String := ["0", "f", "false", "n", "no", "off"]

/-- A word for true or false, in any case. -/
def flag (field raw : String) : Except ScoreError Bool :=
  let word := Text.lowerAscii (Text.trimmed raw)
  if trueWords.contains word then .ok true
  else if falseWords.contains word then .ok false
  else .error (.invalidFlag field raw)

/-- The interpolation with a code. -/
def mode (code : String) : Except ScoreError Interpolation :=
  match Interpolation.ofCode? code with
  | some m => .ok m
  | none => .error (.invalidMode code)

/-- Codes of interpolations between commas; blank items are passed over. -/
def modes (raw : String) : Except ScoreError (List Interpolation) :=
  (((Text.splitOn ',' raw.toList).map Text.trim).filter (· ≠ [])).mapM
    fun code => mode (String.ofList code)

/-- A list that is read has one number per item. -/
theorem length_of_items {field : String} {i : Nat} {ts : List (List Char)} {xs : List Float}
    (h : items field i ts = .ok xs) : xs.length = ts.length := by
  induction ts generalizing i xs with
  | nil => cases h; rfl
  | cons s rest ih =>
    simp only [items] at h
    split at h
    · cases h
    · cases hr : items field (i + 1) rest with
      | error e => rw [hr] at h; cases h
      | ok ys => rw [hr] at h; cases h; simp [ih hr]

end VocalScore.Field
