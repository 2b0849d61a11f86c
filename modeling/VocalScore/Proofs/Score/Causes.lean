import VocalScore.Proofs.Traversal
import VocalScore.Score.Note

/-!
# Causes that the reader of a note names

The reader of a note names the cause of a failure, as those of a version block and of settings do.
Only the reader of a whole score wraps a cause together with the name of its note.

## Key results

- `Note.failsWith_ofSection`: the reader of a note does not wrap a cause
- `ScoreError.IsCause.root_eq`: a cause is its own root
-/

namespace VocalScore

open Traversal

namespace ScoreError

/-- An error that is not wrapped. -/
def IsCause : ScoreError → Prop
  | inNote _ _ => False
  | _ => True

/-- A cause has no note around it. -/
theorem IsCause.ne_inNote {e : ScoreError} (h : e.IsCause) (n : String) (c : ScoreError) :
    e ≠ .inNote n c := by
  rintro rfl
  exact h

/-- A cause is its own root. -/
theorem IsCause.root_eq {e : ScoreError} (h : e.IsCause) : e.root = e := by
  cases e with
  | inNote n c => exact absurd h id
  | _ => rfl

end ScoreError

open ScoreError

/-! ### Values of keys -/

namespace Field

/-- A number that is wrong is a cause. -/
theorem failsWith_number (field raw : String) : FailsWith IsCause (number field raw) := by
  rw [number]
  split
  · exact .ok _
  · exact .error trivial

theorem failsWith_optionalNumber (field raw : String) :
    FailsWith IsCause (optionalNumber field raw) := by
  rw [optionalNumber]
  split
  · exact .ok _
  · exact (failsWith_number field raw).map _

theorem failsWith_items (field : String) (i : Nat) (l : List (List Char)) :
    FailsWith IsCause (items field i l) := by
  induction l generalizing i with
  | nil => exact .ok _
  | cons s l ih =>
    simp only [items]
    cases Number.read (Text.trim s) with
    | none => exact .error trivial
    | some x => exact (ih (i + 1)).map _

/-- A list of numbers that is wrong fails with a cause. -/
theorem failsWith_numbers (field raw : String) : FailsWith IsCause (numbers field raw) := by
  rw [numbers]
  split
  · exact .ok _
  · exact failsWith_items field 0 _

/-- A list of codes that is wrong fails with a cause. -/
theorem failsWith_modes (raw : String) : FailsWith IsCause (modes raw) := by
  refine .mapM fun code _ => ?_
  rw [mode]
  split
  · exact .ok _
  · exact .error trivial

end Field

/-! ### Notes -/

/-- An envelope that is wrong fails with a cause. -/
theorem Envelope.failsWith_read (s : String) : FailsWith IsCause (read s) := by
  simp only [read]
  split
  · exact .error trivial
  · split
    · exact .error trivial
    · -- Neither of the two counts: an item is wrong.
      refine FailsWith.map _ (.mapM fun t _ => ?_)
      simp only [EnvelopeValue.read]
      split
      · exact .ok _
      · exact (Field.failsWith_number _ _).map _

namespace PitchBend

/-- The kind of a bend that is wrong is a cause. -/
theorem failsWith_readKind (s : String) : FailsWith IsCause (readKind s) := by
  simp only [readKind]
  split
  · exact .ok _
  · split
    · exact .ok _
    · exact .error trivial

theorem failsWith_readPoint (s : String) : FailsWith IsCause (readPoint s) := by
  rw [readPoint]
  split
  · exact (Field.failsWith_number _ _).bind fun x => .ok _
  · refine (Field.failsWith_number _ _).bind fun x => ?_
    dsimp only
    split
    · exact .ok _
    · exact (Field.failsWith_number _ _).bind fun y => .ok _

theorem failsWith_readStart (start fallback : String) :
    FailsWith IsCause (readStart start fallback) := by
  rw [readStart]
  split
  · exact failsWith_readPoint start
  · split
    · exact failsWith_readPoint fallback
    · exact .ok _

/-- A bend that is wrong fails with a cause. -/
theorem failsWith_read (kind start fallback widths ys modes : String) :
    FailsWith IsCause (read kind start fallback widths ys modes) :=
  (failsWith_readKind kind).bind fun _ => (failsWith_readStart start fallback).bind fun _ =>
    (Field.failsWith_modes modes).bind fun _ => (Field.failsWith_numbers _ widths).bind fun _ =>
      (Field.failsWith_numbers _ ys).bind fun _ => .ok _

end PitchBend

namespace Note

/-- A required number that is missing or wrong fails with a cause. -/
theorem failsWith_requiredNat (s : Section) (key : String) (bound : Nat) :
    FailsWith IsCause (requiredNat s key bound) := by
  -- Missing, empty, or not a number.
  have hraw : FailsWith IsCause (required s key) := by
    rw [required]
    split
    · exact .error trivial
    · split
      · exact .error trivial
      · exact .ok _
  refine hraw.bind fun raw => ?_
  split
  · exact .ok _
  · exact .error trivial

/-- A value that may be empty fails with the causes of its reader. -/
theorem failsWith_readUnless {α : Type} {f : String → Except ScoreError α}
    (hf : ∀ v, FailsWith IsCause (f v)) (s : Section) (key : String) :
    FailsWith IsCause (readUnless s key f) := by
  rw [readUnless]
  split
  · exact .ok _
  · exact (hf _).map _

theorem failsWith_optional (s : Section) (key : String) : FailsWith IsCause (optional s key) :=
  Field.failsWith_optionalNumber key _

/-- The bend of a note that is wrong fails with a cause. -/
theorem failsWith_readBend (s : Section) : FailsWith IsCause (readBend s) := by
  rw [readBend]
  split
  · exact (PitchBend.failsWith_read _ _ _ _ _ _).map _
  · exact .ok _

/-- A note that is wrong fails with a cause, around which the score then puts the name. -/
theorem failsWith_ofSection (s : Section) : FailsWith IsCause (ofSection s) := by
  -- In the order of the reader: a key that is missing or wrong ends it with a cause.
  refine (failsWith_requiredNat s _ _).bind fun length => ?_
  refine (failsWith_requiredNat s _ _).bind fun pitch => ?_
  cases s.get? "Lyric" with
  | none => exact .error trivial
  | some v =>
    refine (failsWith_readUnless (Field.failsWith_number _) s _).bind fun intensity => ?_
    refine (failsWith_readUnless Envelope.failsWith_read s _).bind fun envelope => ?_
    refine (failsWith_readBend s).bind fun pitchBend => ?_
    refine (failsWith_optional s _).bind fun velocity => ?_
    refine (failsWith_optional s _).bind fun modulation => ?_
    refine (failsWith_optional s _).bind fun preUtterance => ?_
    refine (failsWith_optional s _).bind fun voiceOverlap => ?_
    exact (failsWith_optional s _).bind fun startPoint => .ok _

end Note

end VocalScore
