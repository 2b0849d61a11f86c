import VocalScore.Proofs.Curve.Step

/-!
# Segments of a curve

Strictly between two neighbouring points a curve depends on these points alone. The spans of
`valueAt` are closed at both ends and tried from the first, but where points are in order every
span before the segment ends too early for the moment, so the first span that holds it is the
segment itself, and that span has a length. Outside of all spans the first or the last value is
held.

## Key results

- `Brackets.unique`: a moment lies in one segment at most
- `valueAt_of_brackets`: the value there is that of the segment
- `valueAt_of_last_lt`: after the last point its value is held
- `cases_of_lt`: a moment after the first point is after the last, at a point or in a segment
- `valueAt_segment`: all of these for a curve as a whole
-/

namespace VocalScore

open Binary64

/-- A span with a length has a value of its own. -/
theorem CurvePoint.toward_of_lt {p q : CurvePoint} {ms : Float} (h : p.x < q.x) :
    p.toward q ms = p.mode.between p.y q.y ((ms - p.x) / (q.x - p.x)) :=
  if_neg (Binary64.not_le_of_lt (zero_lt_sub h))

namespace Curve

/-- A moment lies strictly between the point `p` at place `i` of a curve and the next point,
`q`. -/
structure Brackets (curve : Curve) (ms : Float) (i : Nat) (p q : CurvePoint) : Prop where
  left : curve[i]? = some p
  right : curve[i + 1]? = some q
  after : p.x < ms
  before : ms < q.x

instance (curve : Curve) (ms : Float) (i : Nat) (p q : CurvePoint) :
    Decidable (Brackets curve ms i p q) :=
  decidable_of_iff (curve[i]? = some p ∧ curve[i + 1]? = some q ∧ p.x < ms ∧ ms < q.x)
    ⟨fun ⟨left, right, after, before⟩ => ⟨left, right, after, before⟩,
      fun ⟨left, right, after, before⟩ => ⟨left, right, after, before⟩⟩

variable {curve : Curve} {ms : Float} {i j : Nat} {p q p' q' : CurvePoint}

/-! ### Places -/

/-- The curve around a segment. -/
theorem Brackets.exists_append (h : Brackets curve ms i p q) :
    ∃ before r, curve = before ++ p :: q :: r := by
  obtain ⟨hi, hp⟩ := List.getElem?_eq_some_iff.1 h.left
  obtain ⟨hj, hq⟩ := List.getElem?_eq_some_iff.1 h.right
  refine ⟨curve.take i, curve.drop (i + 1 + 1), ?_⟩
  rw [← hp, ← hq, ← List.drop_eq_getElem_cons hj, ← List.drop_eq_getElem_cons hi,
    List.take_append_drop]

/-- The points of a curve at two places are in order. -/
theorem InOrder.le_of_lt (h : InOrder curve) (hij : i < j) (hp : curve[i]? = some p)
    (hq : curve[j]? = some q) : p.x ≤ q.x := by
  obtain ⟨hi, rfl⟩ := List.getElem?_eq_some_iff.1 hp
  obtain ⟨hj, rfl⟩ := List.getElem?_eq_some_iff.1 hq
  exact List.pairwise_iff_getElem.1 h.pairwise i j hi hj hij

/-- No segment that holds a moment starts before another one that does. -/
theorem Brackets.not_lt (horder : InOrder curve) (h : Brackets curve ms i p q)
    (h' : Brackets curve ms j p' q') : ¬ i < j := by
  intro hij
  -- The end of the earlier segment is the start of the later one, or before it.
  have hle : q.x ≤ p'.x := by
    rcases Nat.lt_or_eq_of_le (Nat.succ_le_of_lt hij) with hlt | rfl
    · exact horder.le_of_lt hlt h.right h'.left
    · have heq : q = p' := Option.some.inj (h.right.symm.trans h'.left)
      exact heq ▸ Binary64.le_self (lt_iff.1 h.before).2.1
  exact Binary64.not_le_of_lt (Binary64.lt_of_le_of_lt hle h'.after) (Binary64.le_of_lt h.before)

/-- A moment lies in one segment at most. -/
theorem Brackets.unique (horder : InOrder curve) (h : Brackets curve ms i p q)
    (h' : Brackets curve ms j p' q') : j = i :=
  Nat.le_antisymm (Nat.not_lt.1 (h.not_lt horder h')) (Nat.not_lt.1 (h'.not_lt horder h))

/-! ### Values -/

/-- The value in a segment. -/
theorem valueAt_of_brackets (horder : InOrder curve) (h : Brackets curve ms i p q) :
    curve.valueAt ms = some (p.mode.between p.y q.y ((ms - p.x) / (q.x - p.x))) := by
  obtain ⟨before, r, rfl⟩ := h.exists_append
  have hbefore := horder.le_of_append.1
  have hspans : p.spans q ms :=
    CurvePoint.spans_iff.2 ⟨Binary64.le_of_lt h.after, Binary64.le_of_lt h.before⟩
  -- The points before `p` are passed over, and the window of `p` and `q` is the first that spans
  -- `ms`.
  calc valueAt (before ++ p :: q :: r) ms
      = along (p :: q :: r) ms :=
        valueAt_append (fun a ha => Binary64.lt_of_le_of_lt (hbefore a ha) h.after) h.after
    _ = some (p.toward q ms) := if_pos hspans
    _ = some (p.mode.between p.y q.y ((ms - p.x) / (q.x - p.x))) := by
        rw [CurvePoint.toward_of_lt (Binary64.lt_of_lt_of_le h.after (Binary64.le_of_lt h.before))]

/-- Up to its first point a curve has the value of that point. -/
theorem valueAt_of_le_first {r : Curve} (h : ms ≤ p.x) : valueAt (p :: r) ms = some p.y :=
  if_pos h

/-- After its last point a curve has the value of that point. -/
theorem valueAt_of_last_lt (horder : InOrder curve) (hlast : curve.getLast? = some p)
    (h : p.x < ms) : curve.valueAt ms = some p.y := by
  obtain ⟨before, rfl⟩ := List.getLast?_eq_some_iff.1 hlast
  -- The last point is the only one that is left after the spans that end too early.
  have hbefore : ∀ a ∈ before, a.x < ms := fun a ha =>
    Binary64.lt_of_le_of_lt
      ((List.pairwise_append.1 horder.pairwise).2.2 a ha p (List.mem_singleton_self p)) h
  exact valueAt_append hbefore h

/-! ### Where a moment can lie -/

/-- A moment after the first point is after the last one, at a point, or in a segment. -/
theorem cases_of_lt {r : Curve} (hms : ms.isNaN = false) (hnum : ∀ a ∈ p :: r, a.x.isNaN = false)
    (h : p.x < ms) :
    (∃ a ∈ (p :: r).getLast?, a.x < ms) ∨ (∃ a ∈ p :: r, a.x == ms) ∨
      ∃ i a b, Brackets (p :: r) ms i a b := by
  -- The next point is before the moment, and the first point of a curve of the same kind, or
  -- the moment is at it or before it.
  induction r generalizing p with
  | nil => exact Or.inl ⟨p, rfl, h⟩
  | cons q r ih =>
    have hrest : ∀ a ∈ q :: r, a.x.isNaN = false := fun a ha => hnum a (List.mem_cons_of_mem p ha)
    have hq := hrest q List.mem_cons_self
    rcases lt_trichotomy (rank q.x) (rank ms) with hlt | heq | hgt
    · rcases ih hrest (lt_iff.2 ⟨hq, hms, hlt⟩) with hlast | ⟨a, ha, hat⟩ | ⟨i, a, b, hab⟩
      · rw [List.getLast?_cons_cons]
        exact Or.inl hlast
      · exact Or.inr (Or.inl ⟨a, List.mem_cons_of_mem p ha, hat⟩)
      · exact Or.inr (Or.inr ⟨i + 1, a, b, hab.left, hab.right, hab.after, hab.before⟩)
    · have hmem : q ∈ p :: q :: r := List.mem_cons_of_mem p List.mem_cons_self
      exact Or.inr (Or.inl ⟨q, hmem, beq_iff.2 ⟨hq, hms, heq⟩⟩)
    · exact Or.inr (Or.inr ⟨0, p, q, rfl, rfl, h, lt_iff.2 ⟨hms, hq, hgt⟩⟩)

/-- A curve with points in order has the first value before its first point and the last value
after its last. Strictly between neighbouring points, which are the only such pair, the span
between them has a length and the value is that of the way from one to the other; any other curve
in order with these two neighbours has it too. Any other moment is that of a point. -/
theorem valueAt_segment (hne : curve ≠ []) (hnum : ∀ p ∈ curve, p.x.isNaN = false)
    (horder : InOrder curve) (hms : ms.isNaN = false) :
    (∀ p ∈ curve.head?, ms < p.x → curve.valueAt ms = some p.y) ∧
    (∀ p ∈ curve.getLast?, p.x < ms → curve.valueAt ms = some p.y) ∧
    (∀ i p q, Brackets curve ms i p q →
      (∀ j p' q', Brackets curve ms j p' q' → j = i) ∧
      ¬ q.x - p.x ≤ 0.0 ∧
      curve.valueAt ms = some (p.mode.between p.y q.y ((ms - p.x) / (q.x - p.x))) ∧
      ∀ (other : Curve) (j : Nat), InOrder other → Brackets other ms j p q →
        other.valueAt ms = curve.valueAt ms) ∧
    ((∃ p ∈ curve.head?, ms < p.x) ∨ (∃ p ∈ curve.getLast?, p.x < ms) ∨
      (∃ p ∈ curve, p.x == ms) ∨ ∃ i p q, Brackets curve ms i p q) := by
  refine ⟨?_, fun p hp h => valueAt_of_last_lt horder hp h, ?_, ?_⟩
  · intro p hp h
    obtain ⟨r, rfl⟩ := List.head?_eq_some_iff.1 hp
    exact valueAt_of_le_first (Binary64.le_of_lt h)
  · intro i p q h
    have hvalue := valueAt_of_brackets horder h
    have hlt : p.x < q.x := Binary64.lt_of_lt_of_le h.after (Binary64.le_of_lt h.before)
    exact ⟨fun j p' q' h' => h.unique horder h', Binary64.not_le_of_lt (zero_lt_sub hlt), hvalue,
      fun other j hother hj => (valueAt_of_brackets hother hj).trans hvalue.symm⟩
  · -- The moment is before, at or after the first point; after it, `cases_of_lt` goes on.
    obtain ⟨p, r, rfl⟩ := List.exists_cons_of_ne_nil hne
    have hp := hnum p List.mem_cons_self
    rcases lt_trichotomy (rank ms) (rank p.x) with hlt | heq | hgt
    · exact Or.inl ⟨p, rfl, lt_iff.2 ⟨hms, hp, hlt⟩⟩
    · exact Or.inr (Or.inr (Or.inl ⟨p, List.mem_cons_self, beq_iff.2 ⟨hp, hms, heq.symm⟩⟩))
    · exact Or.inr (cases_of_lt hms hnum (lt_iff.2 ⟨hp, hms, hgt⟩))

/-- A curve with a step and a way on from it. -/
def stair : Curve := [⟨0, 0, .sine⟩, ⟨10, 0, .jump⟩, ⟨10, 1, .linear⟩, ⟨20, 3, .linear⟩]

/-- After the step the way on from it counts, and not the way to it or the step. -/
theorem valueAt_segment_stair :
    stair ≠ [] ∧ (∀ p ∈ stair, p.x.isNaN = false) ∧ InOrder stair ∧ (15 : Float).isNaN = false ∧
      Brackets stair 15 2 ⟨10, 1, .linear⟩ ⟨20, 3, .linear⟩ ∧ stair.valueAt 15 = some 2 := by
  have hne : stair ≠ [] := List.cons_ne_nil _ _
  have hnum : ∀ p ∈ stair, p.x.isNaN = false := by decide +kernel
  have horder : InOrder stair := by decide +kernel
  have hms : (15 : Float).isNaN = false := by decide +kernel
  have hbrackets : Brackets stair 15 2 ⟨10, 1, .linear⟩ ⟨20, 3, .linear⟩ := by decide +kernel
  have hvalue := ((valueAt_segment hne hnum horder hms).2.2.1 2 _ _ hbrackets).2.2.1
  exact ⟨hne, hnum, horder, hms, hbrackets, hvalue.trans (by decide +kernel)⟩

end Curve

end VocalScore
