import VocalScore.Proofs.Score.BendChain

/-!
# Heights and modes without a segment

A bend may give more heights and modes than it has widths. Its samples use none of the surplus,
and its control points use at most one of the modes: a bend without segments has a single control
point, which takes the first mode that is given.

## Key results

- `samplesFrom_take` / `pointsFrom_take`: a chain uses as many heights and modes as it has widths
- `curves_withoutSurplus`: what a bend loses with the surplus
-/

namespace VocalScore.PitchBend

/-- The bend without the heights and modes that no segment has. -/
def withoutSurplus (b : PitchBend) : PitchBend :=
  { b with ys := b.ys.take b.widths.length, modes := b.modes.take b.widths.length }

theorem headD_take_succ {α : Type} (l : List α) (n : Nat) (d : α) :
    (l.take (n + 1)).headD d = l.headD d := by
  cases l <;> rfl

theorem tail_take_succ {α : Type} (l : List α) (n : Nat) :
    (l.take (n + 1)).tail = l.tail.take n := by
  cases l with
  | nil => rw [List.take_nil, List.tail_nil, List.take_nil]
  | cons a l => rfl

/-- The samples of a chain use as many heights and modes as there are widths. -/
theorem samplesFrom_take (p : BendPoint) (ws ys : List Float) (ms : List Interpolation) :
    samplesFrom p ws (ys.take ws.length) (ms.take ws.length) = samplesFrom p ws ys ms := by
  induction ws generalizing p ys ms with
  | nil => simp only [samplesFrom]
  | cons w ws ih =>
    cases ys with
    | nil => simp only [List.take_nil, samplesFrom]
    -- The segment uses the first height and mode, which are taken.
    | cons y ys =>
      rw [List.length_cons, List.take_succ_cons, samplesFrom, samplesFrom, headD_take_succ,
        tail_take_succ, ih]

/-- So do its control points. -/
theorem pointsFrom_take (scale : Float) (p : BendPoint) (last : Interpolation)
    (ws ys : List Float) (ms : List Interpolation) :
    pointsFrom scale p last ws (ys.take ws.length) (ms.take ws.length) =
      pointsFrom scale p last ws ys ms := by
  induction ws generalizing p last ys ms with
  | nil => rfl
  | cons w ws ih =>
    rw [List.length_cons, pointsFrom, pointsFrom, headD_take_succ, headD_take_succ,
      tail_take_succ, tail_take_succ, ih]

/-- With a segment, what is beyond the widths does not change the control points. -/
theorem toCurve_withoutSurplus_of_widths {b : PitchBend} (h : b.widths ≠ []) (m : Float) :
    b.withoutSurplus.toCurve m = b.toCurve m := by
  have hflat : b.isFlat = false := by
    rw [← Bool.not_eq_true, isFlat_iff]
    exact fun hb => h hb.2
  rw [toCurve_of_not_isFlat hflat, toCurve_of_not_isFlat (b := b.withoutSurplus) hflat]
  obtain ⟨w, ws, hws⟩ := List.exists_cons_of_ne_nil h
  -- With a first segment there is a first mode in use, so both curves end in the same mode.
  have hlast : (b.modes.take b.widths.length).headD defaultMode = b.modes.headD defaultMode := by
    rw [hws, List.length_cons, headD_take_succ]
  show pointsFrom m b.start ((b.modes.take b.widths.length).headD defaultMode) b.widths
    (b.ys.take b.widths.length) (b.modes.take b.widths.length) = _
  rw [hlast, pointsFrom_take]

/-- A bend without segments that is not flat has one control point, at its start. -/
theorem toCurve_of_no_widths {b : PitchBend} (hflat : b.isFlat = false) (h : b.widths = [])
    (m : Float) : b.toCurve m = [⟨b.start.x * m, b.start.y, b.modes.headD defaultMode⟩] := by
  rw [toCurve_of_not_isFlat hflat, h, pointsFrom]

/-- Without a segment, the mode of the only point is beyond the widths, and is lost. -/
theorem toCurve_withoutSurplus_of_no_widths {b : PitchBend} (hflat : b.isFlat = false)
    (h : b.widths = []) (m : Float) :
    b.withoutSurplus.toCurve m = [⟨b.start.x * m, b.start.y, defaultMode⟩] := by
  have hmodes : b.withoutSurplus.modes = [] := by rw [withoutSurplus, h]; rfl
  rw [toCurve_of_no_widths (b := b.withoutSurplus) hflat h, hmodes]
  rfl

/-- Without its surplus a bend has the same samples, and its control points stand for the same
values. They are the same points, unless the bend has no segments, is not flat, and gives a first
mode other than the one that is taken without any: its only point then loses that mode. -/
theorem curves_withoutSurplus (b : PitchBend) (m : Float) :
    b.withoutSurplus.samples = b.samples ∧
    (b.withoutSurplus.toCurve m = b.toCurve m ↔
      b.widths ≠ [] ∨ b.isFlat = true ∨ b.modes.headD defaultMode = defaultMode) ∧
    ∀ ms, (b.withoutSurplus.toCurve m).valueAt ms = (b.toCurve m).valueAt ms := by
  refine ⟨samplesFrom_take _ _ _ _, ?_⟩
  by_cases hwidths : b.widths = []
  · cases hflat : b.isFlat with
    | true =>
      have hb := (toCurve_eq_nil_iff b m).2 hflat
      have hc := (toCurve_eq_nil_iff b.withoutSurplus m).2 hflat
      rw [hb, hc]
      exact ⟨iff_of_true rfl (Or.inr (Or.inl rfl)), fun ms => rfl⟩
    -- The two points differ in their modes at most, which does not show in the value of one point.
    | false =>
      rw [toCurve_withoutSurplus_of_no_widths hflat hwidths, toCurve_of_no_widths hflat hwidths]
      refine ⟨?_, fun ms => by rw [Curve.valueAt_singleton, Curve.valueAt_singleton]⟩
      simp [hwidths, eq_comm]
  · rw [toCurve_withoutSurplus_of_widths hwidths]
    exact ⟨iff_of_true rfl (Or.inl hwidths), fun ms => rfl⟩

/-- The only control point of a bend without segments takes a mode that no segment has. -/
theorem toCurve_withoutSurplus_ne :
    toCurve ⟨5, ⟨1, 2⟩, [], [], [.linear]⟩ 1 = [⟨1, 2, .linear⟩] ∧
    (withoutSurplus ⟨5, ⟨1, 2⟩, [], [], [.linear]⟩).toCurve 1 = [⟨1, 2, .sine⟩] ∧
    (withoutSurplus ⟨5, ⟨1, 2⟩, [], [], [.linear]⟩).toCurve 1 ≠
      toCurve ⟨5, ⟨1, 2⟩, [], [], [.linear]⟩ 1 := by
  refine ⟨?_, ?_, ?_⟩ <;> decide +kernel

end VocalScore.PitchBend
