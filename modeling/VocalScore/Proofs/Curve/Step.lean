import VocalScore.Curve.Basic
import VocalScore.Proofs.Number.Arithmetic

/-!
# Vertical steps of a curve

Points of a curve that share a moment are a vertical step. At that moment the curve has the
value with which it arrives at the first of them: `valueAt` takes the first span that holds the
moment, which is the one that ends at the step. The spans inside the step, which have no length
and the value of their end, come too late, so the other points of the step have no part in the
value.

## Key results

- `along_append`: spans that end before a moment are passed over
- `valueAt_append_cons`: the value at the moment of a point is the one of arriving at the first
  point of that moment
- `valueAt_step`: the value at a vertical step
-/

namespace VocalScore

open Binary64

namespace CurvePoint

/-- The value on arriving from a point at the next one, at the end of the way between them. Where
the length of the way is beyond all numbers, the position on it is not a number. -/
def arrive (p q : CurvePoint) : Float :=
  p.mode.between p.y q.y (if (q.x - p.x).isFinite then 1.0 else nan)

/-- A curve that holds its value still holds it on arriving. -/
theorem arrive_of_rigid {p : CurvePoint} (h : p.mode = .rigid) (q : CurvePoint) :
    p.arrive q = p.y := by
  rw [arrive, h]; rfl

/-- A curve that jumps has arrived. -/
theorem arrive_of_jump {p : CurvePoint} (h : p.mode = .jump) (q : CurvePoint) :
    p.arrive q = q.y := by
  have hnot : ¬ Interpolation.clampUnit (if (q.x - p.x).isFinite then 1.0 else nan) ≤ 0.0 := by
    split
    · decide +kernel
    · decide +kernel
  simp only [arrive, h, Interpolation.between, if_neg hnot]

/-- A straight line from one number to another ends at the other. -/
theorem arrive_of_linear {p q : CurvePoint} (h : p.mode = .linear)
    (hspan : (q.x - p.x).isFinite) (hp : p.y.isFinite) (hq : q.y.isNaN = false) :
    p.arrive q == q.y := by
  have hbetween : p.arrive q = p.y * (1.0 - 1.0) + q.y * 1.0 := by
    have hclamp : Interpolation.clampUnit 1.0 = 1.0 := by decide +kernel
    rw [arrive, h, if_pos hspan, Interpolation.between, hclamp]
  have hzero : (1.0 - 1.0 : Float) = 0.0 := by decide +kernel
  rw [hbetween, hzero, Binary64.mul_one]
  exact mul_zero_add_beq hp hq

/-- A point and the next one span a moment that lies between them, ends included. -/
theorem spans_iff {p q : CurvePoint} {ms : Float} : p.spans q ms ↔ p.x ≤ ms ∧ ms ≤ q.x := by
  simp [spans]

/-- The value toward a point, at its moment, is that of arriving there. -/
theorem toward_eq_arrive {p q : CurvePoint} {ms : Float} (h : p.x < q.x) (hq : q.x == ms) :
    p.toward q ms = p.arrive q := by
  have hspan : 0.0 < q.x - p.x := zero_lt_sub h
  have hms : q.x - p.x = ms - p.x := sub_eq_sub_of_beq hq h
  rw [toward, if_neg (Binary64.not_le_of_lt hspan), ← hms, div_self_of_pos hspan, arrive]

end CurvePoint

namespace Curve

/-- No point is earlier than the one before it. -/
def InOrder (c : Curve) : Prop := c.IsChain fun p q => p.x ≤ q.x

/-- The points `run` of the curve `before ++ run ++ after` are a vertical step: they are two or
more at one moment, and all that stand together there. -/
structure IsStep (before run after : Curve) (ms : Float) : Prop where
  two_le : 2 ≤ run.length
  shared : ∀ q ∈ run, q.x == ms
  left : ∀ p ∈ before.getLast?, ¬ p.x == ms
  right : ∀ p ∈ after.head?, ¬ p.x == ms

instance (c : Curve) : Decidable (InOrder c) :=
  inferInstanceAs (Decidable (List.IsChain _ c))

instance (before run after : Curve) (ms : Float) : Decidable (IsStep before run after ms) :=
  decidable_of_iff (2 ≤ run.length ∧ (∀ q ∈ run, q.x == ms) ∧
      (∀ p ∈ before.getLast?, ¬ p.x == ms) ∧ ∀ p ∈ after.head?, ¬ p.x == ms)
    ⟨fun ⟨two, shared, left, right⟩ => ⟨two, shared, left, right⟩,
      fun ⟨two, shared, left, right⟩ => ⟨two, shared, left, right⟩⟩

/-! ### The span that holds a moment -/

/-- A span that ends before a moment is passed over. -/
theorem along_cons_cons_of_lt {p q : CurvePoint} {r : Curve} {ms : Float} (h : q.x < ms) :
    along (p :: q :: r) ms = along (q :: r) ms := by
  have hspans : ¬ p.spans q ms := fun hs =>
    Binary64.not_le_of_lt h (CurvePoint.spans_iff.1 hs).2
  rw [along, if_neg hspans]

/-- All the spans that end before a moment are passed over. -/
theorem along_append {p : CurvePoint} {r : Curve} {ms : Float} (hp : p.x < ms) :
    ∀ {before : Curve}, (∀ a ∈ before, a.x < ms) →
      along (before ++ p :: r) ms = along (p :: r) ms
  | [], _ => rfl
  | [a], _ => along_cons_cons_of_lt hp
  | a :: b :: before, h => by
    have hb : b.x < ms := h b (by simp)
    calc along (a :: b :: (before ++ p :: r)) ms
        = along (b :: before ++ p :: r) ms := along_cons_cons_of_lt hb
      _ = along (p :: r) ms := along_append hp fun c hc => h c (List.mem_cons_of_mem a hc)

/-- Points before a moment have no part in the value, but for the last of them. -/
theorem valueAt_append {before : Curve} {p : CurvePoint} {r : Curve} {ms : Float}
    (h : ∀ a ∈ before, a.x < ms) (hp : p.x < ms) :
    valueAt (before ++ p :: r) ms = along (p :: r) ms := by
  rw [← along_append hp h]
  cases before with
  | nil => exact if_neg (Binary64.not_le_of_lt hp)
  | cons a before => exact if_neg (Binary64.not_le_of_lt (h a (by simp)))

/-! ### Steps -/

/-- No point is earlier than any point before it. -/
theorem InOrder.pairwise {c : Curve} (h : InOrder c) : c.Pairwise fun p q => p.x ≤ q.x :=
  @List.IsChain.pairwise _ _ _ ⟨Binary64.le_trans⟩ h

/-- Whatever is before a point is not later than it. -/
theorem InOrder.le_of_append {init r : Curve} {p q : CurvePoint}
    (h : InOrder (init ++ p :: q :: r)) : (∀ a ∈ init, a.x ≤ p.x) ∧ p.x ≤ q.x := by
  obtain ⟨hinit, hpq, -⟩ := List.isChain_append_cons_cons.1 h
  exact ⟨fun a ha => (List.pairwise_append.1 (InOrder.pairwise hinit)).2.2 a ha p
    (List.mem_singleton_self p), hpq⟩

/-- The value at the moment of a point that is the first of that moment. -/
theorem valueAt_append_cons {before r : Curve} {q : CurvePoint} {ms : Float}
    (h : InOrder (before ++ q :: r)) (hq : q.x == ms)
    (hleft : ∀ p ∈ before.getLast?, ¬ p.x == ms) :
    valueAt (before ++ q :: r) ms = some (before.getLast?.elim q.y (·.arrive q)) := by
  obtain rfl | ⟨init, p, rfl⟩ := List.eq_nil_or_concat' before
  · exact if_pos (Binary64.ge_of_beq hq)
  · -- The span from `p` to `q` is the first that does not end before the moment.
    rw [List.append_assoc] at h ⊢
    rw [List.getLast?_concat] at hleft ⊢
    obtain ⟨hinit, hpq⟩ := h.le_of_append
    have hp : p.x < ms := Binary64.lt_of_le_of_not_beq
      (Binary64.le_trans hpq (Binary64.le_of_beq hq)) (hleft p rfl)
    have hspans : p.spans q ms :=
      CurvePoint.spans_iff.2 ⟨Binary64.le_of_lt hp, Binary64.ge_of_beq hq⟩
    calc valueAt (init ++ p :: q :: r) ms
        = along (p :: q :: r) ms :=
          valueAt_append (fun a ha => Binary64.lt_of_le_of_lt (hinit a ha) hp) hp
      _ = some (p.toward q ms) := if_pos hspans
      _ = some (p.arrive q) := by
          rw [CurvePoint.toward_eq_arrive (Binary64.lt_of_lt_of_le hp (Binary64.ge_of_beq hq)) hq]

/-- The value at a vertical step is that of arriving at the first of its points, or that of this
point itself where none is before it. Arriving is still being at the point before if that holds
its value, and being at the first point of the step after a jump or along a straight line. -/
theorem valueAt_step {before run after : Curve} {ms : Float}
    (h : InOrder (before ++ run ++ after)) (hstep : IsStep before run after ms) :
    valueAt (before ++ run ++ after) ms =
      (run.head?.map fun q => before.getLast?.elim q.y (·.arrive q)) ∧
    ∀ p ∈ before.getLast?, ∀ q ∈ run.head?,
      (p.mode = .rigid → p.arrive q = p.y) ∧
      (p.mode = .jump → p.arrive q = q.y) ∧
      (p.mode = .linear → (q.x - p.x).isFinite → p.y.isFinite → q.y.isNaN = false →
        p.arrive q == q.y) := by
  obtain ⟨hlength, hshared, hleft, -⟩ := hstep
  refine ⟨?_, fun p _ q _ => ⟨fun hmode => CurvePoint.arrive_of_rigid hmode q,
    fun hmode => CurvePoint.arrive_of_jump hmode q, CurvePoint.arrive_of_linear⟩⟩
  -- Only the first point of the run matters: the window before it answers.
  cases run with
  | nil => exact absurd hlength (by decide)
  | cons q run =>
    rw [List.append_assoc] at h ⊢
    exact valueAt_append_cons h (hshared q List.mem_cons_self) hleft

/-- A step from 0 to 1 at the moment 10. -/
def riser : Curve := [⟨10, 0, .linear⟩, ⟨10, 1, .linear⟩]

/-- The way to the step. -/
def lower : Curve := [⟨0, 0, .linear⟩]

/-- The way from the step. -/
def upper : Curve := [⟨20, 1, .linear⟩]

/-- At the moment of the step the curve is still at 0. -/
theorem valueAt_step_riser :
    InOrder (lower ++ riser ++ upper) ∧ IsStep lower riser upper 10 ∧
      valueAt (lower ++ riser ++ upper) 10 = some 0 := by
  have horder : InOrder (lower ++ riser ++ upper) := by decide +kernel
  have hstep : IsStep lower riser upper 10 := by decide +kernel
  exact ⟨horder, hstep, (valueAt_step horder hstep).1.trans (by decide +kernel)⟩

/-- The value at a step is not that of its last point, neither inside a curve nor at its
start. -/
theorem valueAt_step_ne_last :
    (∀ p ∈ lower ++ riser ++ upper, p.x.isFinite) ∧
    (InOrder (lower ++ riser ++ upper) ∧ IsStep lower riser upper 10 ∧
      valueAt (lower ++ riser ++ upper) 10 ≠ riser.getLast?.map (·.y)) ∧
    (InOrder ([] ++ riser ++ upper) ∧ IsStep [] riser upper 10 ∧
      valueAt ([] ++ riser ++ upper) 10 ≠ riser.getLast?.map (·.y)) := by
  decide +kernel

end Curve

end VocalScore
