import Mathlib.Tactic.SplitIfs
import VocalScore.Encoding.Utf8

/-!
# Reading UTF-8 in parts

The decoder is a machine whose state is the character under way. `run` stops it in the middle of
bytes; what it has written by then stays, whatever bytes follow, and at the end of the bytes the
character under way becomes one replacement.

## Key results

- `decodeFrom_append`: bytes are read part by part
- `continues_run`: a character under way never takes a byte of ASCII
- `decode_append_newline`: text before a newline and after it can be read apart
- `exists_written`: what part of the bytes make is what all of them start with, but for one
  replacement at its end
-/

namespace VocalScore.Utf8

/-- Read bytes up to a point: what is written so far, and the character under way. -/
def run : Option Pending → List UInt8 → List Char × Option Pending
  | p, [] => ([], p)
  | p, b :: r => ((step p b.toNat).1 ++ (run (step p b.toNat).2 r).1, (run (step p b.toNat).2 r).2)

theorem decodeFrom_cons (p : Option Pending) (b : UInt8) (r : List UInt8) :
    decodeFrom p (b :: r) = (step p b.toNat).1 ++ decodeFrom (step p b.toNat).2 r := by
  rw [decodeFrom]

/-- Bytes are read part by part. -/
theorem decodeFrom_append (p : Option Pending) (s t : List UInt8) :
    decodeFrom p (s ++ t) = (run p s).1 ++ decodeFrom (run p s).2 t := by
  induction s generalizing p with
  | nil => rfl
  | cons b s ih => rw [List.cons_append, decodeFrom_cons, ih, run, List.append_assoc]

/-- A character under way, if there is one, goes on with a byte beyond ASCII. -/
def Continues (p : Option Pending) : Prop := ∀ q, p = some q → 0x80 ≤ q.lower

/-- A first byte leaves a sequence that can still be ended. -/
theorem continues_start (b : Nat) : Continues (start b).2 := by
  rw [start]
  -- One case for each range of the first byte.
  split_ifs <;> simp [Continues]

/-- Any byte leaves a sequence that can still be ended. -/
theorem continues_step (p : Option Pending) (b : Nat) : Continues (step p b).2 := by
  cases p with
  | none => exact continues_start b
  | some p =>
    simp only [step]
    split
    · split
      · intro q hq
        cases hq
      · intro q hq
        cases hq
        exact Nat.le_refl _
    · exact continues_start b

theorem continues_run {p : Option Pending} (h : Continues p) (s : List UInt8) :
    Continues (run p s).2 := by
  induction s generalizing p with
  | nil => exact h
  | cons b s ih => exact ih (continues_step p b.toNat)

/-- A newline ends the character under way. -/
theorem decodeFrom_newline {p : Option Pending} (h : Continues p) (t : List UInt8) :
    decodeFrom p (0x0A :: t) = decodeFrom p [] ++ '\n' :: decode t := by
  cases p with
  | none => rfl
  | some p =>
    have hlower := h p rfl
    -- A newline is below every continuation byte, so it ends what is pending.
    have hbyte : ¬(p.lower ≤ (0x0A : UInt8).toNat ∧ (0x0A : UInt8).toNat ≤ p.upper) := by
      have h10 : (0x0A : UInt8).toNat = 10 := rfl
      omega
    rw [decodeFrom_cons, step, if_neg hbyte]
    rfl

/-- Text before a newline and text after it can be read apart. -/
theorem decode_append_newline (s t : List UInt8) :
    decode (s ++ 0x0A :: t) = decode s ++ '\n' :: decode t := by
  have hnone : Continues none := fun q hq => nomatch hq
  rw [decode, decodeFrom_append, decodeFrom_newline (continues_run hnone s), ← List.append_assoc,
    ← decodeFrom_append, List.append_nil, ← decode]

/-- What has been written stays, and a character under way adds one replacement at most. -/
theorem exists_written (s : List UInt8) :
    ∃ cs, (decode s = cs ∨ decode s = cs ++ [replacement]) ∧ ∀ t, cs <+: decode (s ++ t) := by
  refine ⟨(run none s).1, ?_, fun t => ?_⟩
  · -- At the end of the bytes what is pending becomes a replacement character.
    have hall := decodeFrom_append none s []
    rw [List.append_nil] at hall
    rw [decode, hall]
    cases (run none s).2 with
    | none => exact Or.inl (List.append_nil _)
    | some p => exact Or.inr rfl
  · rw [decode, decodeFrom_append]
    exact List.prefix_append _ _

end VocalScore.Utf8
