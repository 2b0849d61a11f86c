import VocalScore.Proofs.Number.Arithmetic
import VocalScore.Score.PitchBend

/-!
# The chain of a pitch bend

The segments of a bend join the points of a chain. The first point is where the bend starts; each
segment leads on by its width, up or down to its height. The control points of a bend and its
samples are two readings of that chain, which differ in what they take for a height or a mode that
is not given. A sample is computed from both ends of its segment, so that an infinite width or
height is felt even at the start of it.

## Key results

- `getElem?_pointsFrom` / `getElem?_pointsFrom_length`: the control points, and the one at the end
- `take_samplesFrom`: the samples of one segment
- `toCurve_padded`: what is filled in has no effect on the control points
- `same_wayAt_zero_iff`: when the way along a segment starts where the segment does
- `curves_follow_chain`: both readings, and exactly where they agree
-/

namespace VocalScore.PitchBend

open Binary64 (Same)

/-! ### The points of a chain -/

/-- The points that segments join, from a start on. A height that is not given is 0. -/
def chain (p : BendPoint) (ws ys : List Float) : Nat → BendPoint
  | 0 => p
  | k + 1 => ⟨(chain p ws ys k).x + ws.getD k 0.0, ys.getD k 0.0⟩

/-- The points that the segments of a bend join. -/
def vertex (b : PitchBend) : Nat → BendPoint := chain b.start b.widths b.ys

theorem getD_tail {α : Type} (l : List α) (k : Nat) (d : α) :
    l.tail.getD k d = l.getD (k + 1) d := by
  rw [List.getD_eq_getElem?_getD, List.getElem?_tail, ← List.getD_eq_getElem?_getD]

/-- After its first segment a chain goes on as the chain of the others. -/
theorem chain_cons (p : BendPoint) (w : Float) (ws ys : List Float) (k : Nat) :
    chain p (w :: ws) ys (k + 1) = chain ⟨p.x + w, ys.headD 0.0⟩ ws ys.tail k := by
  induction k with
  | zero => rw [chain, chain, chain, List.getD_cons_zero, List.headD_eq_getD]
  | succ k ih => rw [chain, ih, chain, List.getD_cons_succ, getD_tail]

/-- A chain depends on its heights only through what each of them is taken for. -/
theorem chain_congr {ys zs : List Float} (h : ∀ k, ys.getD k 0.0 = zs.getD k 0.0) (p : BendPoint)
    (ws : List Float) (k : Nat) : chain p ws ys k = chain p ws zs k := by
  induction k with
  | zero => rfl
  | succ k ih => rw [chain, chain, ih, h]

/-! ### Control points -/

/-- The control point at the start of a segment. -/
theorem getElem?_pointsFrom {scale : Float} {p : BendPoint} {last : Interpolation}
    {ws ys : List Float} {ms : List Interpolation} {k : Nat} (h : k < ws.length) :
    (pointsFrom scale p last ws ys ms)[k]? =
      some ⟨(chain p ws ys k).x * scale, (chain p ws ys k).y, ms.getD k defaultMode⟩ := by
  -- Each segment moves the start on, so the induction is for every start.
  induction ws generalizing p last ys ms k with
  | nil => exact absurd h (Nat.not_lt_zero k)
  | cons w ws ih =>
    cases k with
    | zero => rw [pointsFrom, List.getElem?_cons_zero, chain, List.headD_eq_getD]
    | succ k =>
      rw [pointsFrom, List.getElem?_cons_succ, ih (Nat.lt_of_succ_lt_succ h), chain_cons, getD_tail]

/-- The control point at the end has the mode of the last segment, if there is one. -/
theorem getElem?_pointsFrom_length {scale : Float} {p : BendPoint} {last : Interpolation}
    {ws ys : List Float} {ms : List Interpolation} :
    (pointsFrom scale p last ws ys ms)[ws.length]? =
      some ⟨(chain p ws ys ws.length).x * scale, (chain p ws ys ws.length).y,
        if ws = [] then last else ms.getD (ws.length - 1) defaultMode⟩ := by
  -- The last point has the mode of the last segment, since it starts none.
  induction ws generalizing p last ys ms with
  | nil => rfl
  | cons w ws ih =>
    rw [pointsFrom, List.length_cons, List.getElem?_cons_succ, ih, chain_cons,
      if_neg (List.cons_ne_nil w ws), Nat.add_sub_cancel]
    cases ws with
    | nil => rw [if_pos rfl, List.headD_eq_getD (l := ms), List.length_nil]
    | cons v ws =>
      rw [if_neg (List.cons_ne_nil v ws), getD_tail, List.length_cons, Nat.add_sub_cancel]

theorem isFlat_iff (b : PitchBend) :
    b.isFlat = true ↔ (b.start.x == 0.0 && b.start.y == 0.0) = true ∧ b.widths = [] := by
  rw [isFlat, Bool.and_eq_true, List.isEmpty_iff]

/-- A bend that is not flat has control points from its start on. -/
theorem toCurve_of_not_isFlat {b : PitchBend} (h : b.isFlat = false) (m : Float) :
    b.toCurve m = pointsFrom m b.start (b.modes.headD defaultMode) b.widths b.ys b.modes := by
  rw [toCurve, h, if_neg Bool.false_ne_true]

/-- Only a flat bend has no control points. -/
theorem toCurve_eq_nil_iff (b : PitchBend) (m : Float) : b.toCurve m = [] ↔ b.isFlat = true := by
  cases h : b.isFlat with
  | true =>
    rw [toCurve, h, if_pos rfl]
    exact iff_of_true rfl rfl
  | false =>
    rw [toCurve_of_not_isFlat h]
    refine iff_of_false (fun hnil => ?_) Bool.false_ne_true
    -- A bend that is not flat has at least its start.
    have hlength := congrArg List.length hnil
    rw [length_pointsFrom] at hlength
    cases hlength

/-- The control points of a bend stand at the points of its chain. -/
structure ControlsChain (b : PitchBend) (m : Float) : Prop where
  length : (b.toCurve m).length = b.widths.length + 1
  starts : ∀ k < b.widths.length, (b.toCurve m)[k]? =
    some ⟨(b.vertex k).x * m, (b.vertex k).y, b.modes.getD k defaultMode⟩
  last : (b.toCurve m)[b.widths.length]? =
    some ⟨(b.vertex b.widths.length).x * m, (b.vertex b.widths.length).y,
      b.modes.getD (b.widths.length - 1) defaultMode⟩

/-- The control points of a bend that is not flat are those of its chain. -/
theorem controlsChain_toCurve {b : PitchBend} (h : b.isFlat = false) (m : Float) :
    ControlsChain b m := by
  refine ⟨?_, fun k hk => ?_, ?_⟩
  · rw [toCurve_of_not_isFlat h, length_pointsFrom]
  · rw [toCurve_of_not_isFlat h, getElem?_pointsFrom hk, vertex]
  · rw [toCurve_of_not_isFlat h, getElem?_pointsFrom_length, vertex]
    -- Without a segment the mode is that of the start, the first of all.
    cases b.widths with
    | nil => rw [if_pos rfl, List.headD_eq_getD, List.length_nil]
    | cons w ws => rw [if_neg (List.cons_ne_nil w ws)]

/-! ### Filling in -/

/-- Filling a list up with a value does not change its entries, which were that value or given. -/
theorem getD_fillTo {α : Type} (n : Nat) (x : α) (l : List α) (k : Nat) :
    (fillTo n x l).getD k x = l.getD k x := by
  rw [fillTo, List.getD_eq_getElem?_getD, List.getD_eq_getElem?_getD]
  rcases Nat.lt_or_ge k l.length with hk | hk
  · rw [List.getElem?_append_left hk]
  · rw [List.getElem?_append_right hk, List.getElem?_eq_none hk, List.getElem?_replicate]
    split <;> rfl

theorem length_fillTo {α : Type} (n : Nat) (x : α) (l : List α) :
    (fillTo n x l).length = max n l.length := by
  rw [fillTo, List.length_append, List.length_replicate]
  omega

/-- A list that is filled up has an entry at each of its places. -/
theorem getElem?_fillTo {α : Type} {n k : Nat} (h : k < n) (x : α) (l : List α) :
    (fillTo n x l)[k]? = some (l.getD k x) := by
  have hk : k < (fillTo n x l).length := by rw [length_fillTo]; omega
  rw [← getD_fillTo n x l k, List.getD_eq_getElem?_getD, List.getElem?_eq_getElem hk,
    Option.getD_some]

theorem fillTo_fillTo {α : Type} (n : Nat) (x : α) (l : List α) :
    fillTo n x (fillTo n x l) = fillTo n x l := by
  have hnone : n - (fillTo n x l).length = 0 := by rw [length_fillTo]; omega
  rw [fillTo, hnone, List.replicate_zero, List.append_nil]

/-- Filling the heights and modes up does not change the control points. -/
theorem toCurve_padded (b : PitchBend) (m : Float) : b.padded.toCurve m = b.toCurve m := by
  have hflat : b.padded.isFlat = b.isFlat := rfl
  cases h : b.isFlat with
  | true => rw [(toCurve_eq_nil_iff b m).2 h, (toCurve_eq_nil_iff b.padded m).2 (hflat.trans h)]
  | false =>
    have hb := controlsChain_toCurve h m
    have hp := controlsChain_toCurve (hflat.trans h) m
    have hvertex : ∀ k, b.padded.vertex k = b.vertex k :=
      chain_congr (getD_fillTo _ 0.0 b.ys) b.start b.widths
    have hmode : ∀ k, b.padded.modes.getD k defaultMode = b.modes.getD k defaultMode :=
      getD_fillTo _ defaultMode b.modes
    have hwidths : b.padded.widths = b.widths := rfl
    -- Both curves have the same points at the starts of the segments and at the end.
    apply List.ext_getElem?
    intro k
    rcases Nat.lt_trichotomy k b.widths.length with hk | rfl | hk
    · rw [hp.starts k hk, hb.starts k hk, hvertex, hmode]
    · rw [hb.last, ← hwidths, hp.last, hvertex, hmode, hwidths]
    · rw [List.getElem?_eq_none (by rw [hp.length, hwidths]; omega),
        List.getElem?_eq_none (by rw [hb.length]; omega)]

/-- A bend whose lists are long enough for its segments, and that is otherwise the same. -/
structure Completes (p b : PitchBend) : Prop where
  kind : p.kind = b.kind
  start : p.start = b.start
  widths : p.widths = b.widths
  keepsYs : b.ys <+: p.ys
  keepsModes : b.modes <+: p.modes
  ys : ∀ k < b.widths.length, p.ys[k]? = some (b.vertex (k + 1)).y
  modes : ∀ k < b.widths.length, p.modes[k]? = some (b.modes.getD k defaultMode)
  again : p.padded = p

/-- A bend that is filled up completes the bend. -/
theorem completes_padded (b : PitchBend) : Completes b.padded b where
  kind := rfl
  start := rfl
  widths := rfl
  keepsYs := List.prefix_append _ _
  keepsModes := List.prefix_append _ _
  ys _ hk := getElem?_fillTo hk 0.0 b.ys
  modes _ hk := getElem?_fillTo hk defaultMode b.modes
  again := by
    simp only [padded, fillTo_fillTo]

/-! ### Samples -/

/-- A segment has eleven samples, both ends included. -/
theorem length_segment (p : BendPoint) (w y : Float) (mode : Interpolation) :
    (segment p w y mode).length = 11 := by
  rw [segment, positions, List.length_map, List.length_map, List.length_range]

/-- Sample `j` of a segment is `j` tenths along. -/
theorem getElem?_segment {j : Nat} (h : j ≤ 10) (p : BendPoint) (w y : Float)
    (mode : Interpolation) : (segment p w y mode)[j]? =
      some ⟨p.x + w * (Float.ofNat j / 10.0), mode.between p.y y (Float.ofNat j / 10.0)⟩ := by
  rw [segment, positions, List.getElem?_map, List.getElem?_map, List.getElem?_range (by omega)]
  rfl

/-- The samples of a segment that has a width and a height. -/
theorem take_samplesFrom {p : BendPoint} {ws ys : List Float} {ms : List Interpolation} {k : Nat}
    {w y : Float} (hw : ws[k]? = some w) (hy : ys[k]? = some y) :
    ((samplesFrom p ws ys ms).drop (11 * k)).take 11 =
      segment (chain p ws ys k) w y (ms.getD k .linear) := by
  induction ws generalizing p ys ms k with
  | nil => cases hw
  | cons v ws ih =>
    cases ys with
    | nil => cases hy
    | cons z ys =>
      have hlength := length_segment p v z (ms.headD .linear)
      rw [samplesFrom]
      cases k with
      | zero =>
        cases hw
        cases hy
        rw [Nat.mul_zero, List.drop_zero, List.take_left' hlength, chain, List.headD_eq_getD]
      | succ k =>
        -- Eleven samples make the first segment, and the others are those of the later ones.
        rw [Nat.mul_succ, Nat.add_comm, ← List.drop_drop, List.drop_left' hlength, ih hw hy,
          chain_cons, getD_tail, List.headD_cons, List.tail_cons]

/-- The height on the way from `a` to `b`, after `j` of its ten steps. -/
def wayAt (mode : Interpolation) (a b : Float) (j : Nat) : Float :=
  match mode with
  | .linear => a * (1.0 - Float.ofNat j / 10.0) + b * (Float.ofNat j / 10.0)
  | .sine => a + (b - a) * (0.5 - 0.5 * (3.141592653589793 * (Float.ofNat j / 10.0)).cos)
  | .rigid => a
  | .jump => if j = 0 then a else b

/-- The steps of a segment lie between its ends, so that none of them is moved. -/
theorem between_eq_wayAt (mode : Interpolation) (a b : Float) {j : Nat} (h : j ≤ 10) :
    mode.between a b (Float.ofNat j / 10.0) = wayAt mode a b j := by
  -- The eleven tenths are checked one by one: none is outside of zero to one.
  have hclamp : ∀ j ≤ 10,
      Interpolation.clampUnit (Float.ofNat j / 10.0) = Float.ofNat j / 10.0 := by decide +kernel
  have hstart : ∀ j ≤ 10, Float.ofNat j / 10.0 ≤ 0.0 ↔ j = 0 := by decide +kernel
  cases mode with
  | linear => simp only [Interpolation.between, hclamp j h, wayAt]
  | sine => simp only [Interpolation.between, hclamp j h, Interpolation.pi, wayAt]
  | rigid => rfl
  | jump => simp only [Interpolation.between, hclamp j h, hstart j h, wayAt]

/-- The height at the start of a segment does not feel the end: at a straight line the other height,
and at a cosine the rise, has to be finite. -/
def KeepsStart (mode : Interpolation) (a b : Float) : Prop :=
  match mode with
  | .linear => b.isFinite = true ∨ a.isNaN = true
  | .sine => (b - a).isFinite = true ∨ a.isNaN = true
  | .rigid => True
  | .jump => True

/-- The way along a segment starts at the first height exactly if the end is not felt there. For the
sine this rests on the cosine of zero. -/
theorem same_wayAt_zero_iff (mode : Interpolation) (a b : Float)
    (hcos : mode = .sine → Float.cos 0.0 = 1.0) :
    Same (wayAt mode a b 0) a ↔ KeepsStart mode a b := by
  have hstep : Float.ofNat 0 / 10.0 = 0.0 := by decide +kernel
  cases mode with
  | linear =>
    have hone : (1.0 : Float) - 0.0 = 1.0 := by decide +kernel
    rw [wayAt, hstep, hone, Binary64.mul_one]
    exact Binary64.same_add_mul_zero_iff
  -- The cosine is not computed in the model, so its value at zero is assumed.
  | sine =>
    have hangle : (3.141592653589793 : Float) * 0.0 = 0.0 := by decide +kernel
    have hzero : (0.5 : Float) - 0.5 * 1.0 = 0.0 := by decide +kernel
    rw [wayAt, hstep, hangle, hcos rfl, hzero]
    exact Binary64.same_add_mul_zero_iff
  | rigid => exact iff_of_true (Binary64.same_self a) trivial
  | jump => exact iff_of_true (Binary64.same_self a) trivial

/-- The samples and the control points of a bend start its segment `k` at one point: the first
sample of the segment is where the control point is, whose place is scaled. -/
def StartsAlike (b : PitchBend) (m : Float) (k : Nat) : Prop :=
  ∃ control sample, (b.toCurve m)[k]? = some control ∧ b.samples[11 * k]? = some sample ∧
    control.x = (b.vertex k).x * m ∧ Same sample.x (b.vertex k).x ∧ Same sample.y control.y

/-- The samples of a bend go along its chain. They start a segment where its control point is,
exactly if neither its width nor its end is felt there; and they go along it in the mode of its
control point, if one is given. -/
structure SamplesChain (b : PitchBend) (m : Float) : Prop where
  length : b.samples.length = 11 * min b.widths.length b.ys.length
  points : ∀ k w y, b.widths[k]? = some w → b.ys[k]? = some y → ∀ j ≤ 10,
    b.samples[11 * k + j]? =
      some ⟨(b.vertex k).x + w * (Float.ofNat j / 10.0),
        wayAt (b.modes.getD k .linear) (b.vertex k).y y j⟩
  starts : ∀ k w y, b.widths[k]? = some w → b.ys[k]? = some y →
    (b.modes.getD k .linear = .sine → Float.cos 0.0 = 1.0) →
    (StartsAlike b m k ↔ (w.isFinite = true ∨ (b.vertex k).x.isNaN = true) ∧
      KeepsStart (b.modes.getD k .linear) (b.vertex k).y y)
  modes : ∀ k mode, k < b.widths.length → b.modes[k]? = some mode →
    b.modes.getD k .linear = mode ∧ ∃ x y, (b.toCurve m)[k]? = some ⟨x, y, mode⟩

/-- A bend with a segment is not flat. -/
theorem isFlat_eq_false {b : PitchBend} {k : Nat} (h : k < b.widths.length) : b.isFlat = false := by
  rw [← Bool.not_eq_true, isFlat_iff]
  rintro ⟨-, hnil⟩
  rw [hnil] at h
  exact Nat.not_lt_zero k h

/-- A sample is a step of the way along its segment. -/
theorem getElem?_samples {b : PitchBend} {k : Nat} {w y : Float} (hw : b.widths[k]? = some w)
    (hy : b.ys[k]? = some y) {j : Nat} (hj : j ≤ 10) :
    b.samples[11 * k + j]? =
      some ⟨(b.vertex k).x + w * (Float.ofNat j / 10.0),
        wayAt (b.modes.getD k .linear) (b.vertex k).y y j⟩ := by
  have hsegment : ((b.samples.drop (11 * k)).take 11)[j]? = _ :=
    congrArg (·[j]?) (take_samplesFrom hw hy)
  rwa [List.getElem?_take_of_lt (by omega), List.getElem?_drop, getElem?_segment hj,
    between_eq_wayAt _ _ _ hj] at hsegment

/-- The first sample of a segment is compared with its control point, coordinate by coordinate. -/
theorem startsAlike_iff {b : PitchBend} {k : Nat} {w y : Float} (hw : b.widths[k]? = some w)
    (hy : b.ys[k]? = some y) (m : Float)
    (hcos : b.modes.getD k .linear = .sine → Float.cos 0.0 = 1.0) :
    StartsAlike b m k ↔ (w.isFinite = true ∨ (b.vertex k).x.isNaN = true) ∧
      KeepsStart (b.modes.getD k .linear) (b.vertex k).y y := by
  have hk : k < b.widths.length := (List.getElem?_eq_some_iff.1 hw).1
  -- Both points are known, so it remains to compare them, coordinate by coordinate.
  have hcontrol := (controlsChain_toCurve (isFlat_eq_false hk) m).starts k hk
  have hsample := getElem?_samples hw hy (Nat.zero_le 10)
  have hstep : Float.ofNat 0 / 10.0 = 0.0 := by decide +kernel
  rw [hstep, Nat.add_zero] at hsample
  rw [StartsAlike, hcontrol, hsample, ← same_wayAt_zero_iff _ _ _ hcos,
    ← Binary64.same_add_mul_zero_iff]
  constructor
  · rintro ⟨_, _, ⟨⟩, ⟨⟩, -, hx, hy⟩
    exact ⟨hx, hy⟩
  · rintro ⟨hx, hy⟩
    exact ⟨_, _, rfl, rfl, rfl, hx, hy⟩

/-- The samples of any bend go along its chain. -/
theorem samplesChain (b : PitchBend) (m : Float) : SamplesChain b m where
  length := length_samplesFrom _ _ _ _
  points _ _ _ hw hy _ hj := getElem?_samples hw hy hj
  starts _ _ _ hw hy hcos := startsAlike_iff hw hy m hcos
  modes k mode hk hmode := by
    have hcontrol := (controlsChain_toCurve (isFlat_eq_false hk) m).starts k hk
    -- A mode that is given leaves no room for the two defaults to differ.
    have hgiven : ∀ d, b.modes.getD k d = mode := by
      intro d
      rw [List.getD_eq_getElem?_getD, hmode, Option.getD_some]
    rw [hgiven] at hcontrol
    exact ⟨hgiven .linear, _, _, hcontrol⟩

/-! ### Both readings -/

/-- A bend has no control points exactly if it is flat; otherwise they stand at the points of its
chain, one at the start of each segment and one at the end. Filling in heights and modes gives
each segment one of both and changes nothing else, not even the control points. The samples take
each segment that has a height in ten steps along the same chain. Both readings start such a
segment at one point exactly if its width is finite and its end is not felt at the start, and in
one mode if its mode is given. -/
theorem curves_follow_chain (b : PitchBend) (m : Float) :
    (b.toCurve m = [] ↔ (b.start.x == 0.0 && b.start.y == 0.0) = true ∧ b.widths = []) ∧
    (b.toCurve m ≠ [] → ControlsChain b m) ∧
    Completes b.padded b ∧
    b.padded.toCurve m = b.toCurve m ∧
    SamplesChain b m := by
  refine ⟨?_, ?_, completes_padded b, toCurve_padded b m, samplesChain b m⟩
  · rw [toCurve_eq_nil_iff, isFlat_iff]
  · intro hne
    rw [ne_eq, toCurve_eq_nil_iff, Bool.not_eq_true] at hne
    exact controlsChain_toCurve hne m

/-- Two segments, of which only the first has a height: the second has a control point, with the
mode that is filled in, and no samples. Both readings start the first one alike. -/
theorem curves_of_short_heights :
    (toCurve ⟨5, ⟨-40, 0⟩, [65, 69], [3], [.jump]⟩ 2)[1]? = some ⟨(-40 + 65) * 2, 3, .sine⟩ ∧
    (samples ⟨5, ⟨-40, 0⟩, [65, 69], [3], [.jump]⟩)[10]? =
      some ⟨-40 + 65 * (Float.ofNat 10 / 10.0), 3⟩ ∧
    (samples ⟨5, ⟨-40, 0⟩, [65, 69], [3], [.jump]⟩).length = 11 ∧
    StartsAlike ⟨5, ⟨-40, 0⟩, [65, 69], [3], [.jump]⟩ 2 0 := by
  obtain ⟨hempty, hcontrols, -, -, hsamples⟩ :=
    curves_follow_chain ⟨5, ⟨-40, 0⟩, [65, 69], [3], [.jump]⟩ 2
  have hne := fun hnil => List.cons_ne_nil _ _ (hempty.1 hnil).2
  exact ⟨(hcontrols hne).starts 1 (by decide), hsamples.points 0 65 3 rfl rfl 10 (by decide),
    hsamples.length, (hsamples.starts 0 65 3 rfl rfl (by rintro ⟨⟩)).2
      ⟨Or.inl (by decide +kernel), trivial⟩⟩

/-- A bend with a segment of infinite width, which a text can have. -/
def infinitelyWide : PitchBend := ⟨5, ⟨1, 2⟩, [1.0 / 0.0], [3], [.linear]⟩

/-- The readings of a bend need not start its segments alike: at an infinite width no sample is
where the control point is. -/
theorem not_startsAlike_infinitelyWide :
    read "" "1;2" "" "inf" "3" "l" = .ok infinitelyWide ∧
    ¬StartsAlike infinitelyWide 1 0 ∧
    ¬∀ (b : PitchBend) (m : Float), ∀ k < min b.widths.length b.ys.length, StartsAlike b m k := by
  have hlinear : infinitelyWide.modes.getD 0 .linear = .sine → Float.cos 0.0 = 1.0 := by rintro ⟨⟩
  -- Infinity times zero is no number, so the first sample is nowhere.
  have hnot : ¬StartsAlike infinitelyWide 1 0 := by
    rw [startsAlike_iff rfl rfl 1 hlinear]
    rintro ⟨hwidth | hstart, -⟩
    · revert hwidth
      decide +kernel
    · revert hstart
      decide +kernel
  exact ⟨by decide +kernel, hnot, fun h => hnot (h infinitelyWide 1 0 (by decide))⟩

end VocalScore.PitchBend
