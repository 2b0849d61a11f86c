import VocalScore.Proofs.Number.Bits

/-!
# The order of numbers

Numbers are compared by their signs, their exponents and their mantissas. The bits of a number
without its sign grow with exponent and mantissa, so these, with the sign put before them, are a
whole number that orders all numbers: its rank. Facts about the order of numbers are facts about
the order of whole numbers then. What is not a number is outside the order.

## Key results

- `compare_eq_compare_rank`: two numbers are compared by their ranks
- `le_iff`, `lt_iff`, `beq_iff`: the order and the equality of numbers are those of the ranks
-/

namespace VocalScore.Binary64

open Float.Model Float.Model.UnpackedFloat

/-! ### The numbers the bits hold -/

/-- What the bits of a number can hold. -/
def IsCanonical : UnpackedFloat → Prop
  | .finite _ m e _ => Canonical m e
  | _ => True

/-- The implicit bit stands above the 52 bits of a fraction. -/
theorem toNat_one_append (v : BitVec 52) : (1#1 ++ v).toNat = fractions + v.toNat := by
  rw [BitVec.toNat_append, ← Nat.shiftLeft_add_eq_or_of_lt v.isLt]
  rfl

/-- The mantissa and the exponent that the bits of a number hold are canonical. -/
theorem isCanonical_unpack (x : Float.Model) : IsCanonical x.unpack := by
  have hmantissa : (@unpackMantissa .binary64 x.toBits.toBitVec).toNat < fractions :=
    BitVec.isLt _
  have hexponent : (@unpackExponent .binary64 x.toBits.toBitVec).toNat < 2048 :=
    BitVec.isLt _
  have hbias : ((Format.binary64.exponentBias : ℕ) : ℤ) = 1023 := rfl
  have hwidth : ((Format.binary64.mantissaBitsWithoutImplicit : ℕ) : ℤ) = 52 := rfl
  simp only [Float.Model.unpack, UnpackedFloat.unpack]
  split_ifs with hones hnan hzero hfraction
  · trivial
  · trivial
  · trivial
  · -- The exponent field is zero: a subnormal number.
    rw [hzero, hbias, hwidth]
    exact ⟨by omega, by decide, by decide, Or.inr rfl⟩
  · -- Any other field adds the implicit bit to the mantissa.
    have hlt : (@unpackExponent .binary64 x.toBits.toBitVec).toNat ≠ 2047 :=
      fun heq => hones (BitVec.eq_of_toNat_eq heq)
    have hpos : (@unpackExponent .binary64 x.toBits.toBitVec).toNat ≠ 0 :=
      fun heq => hzero (BitVec.eq_of_toNat_eq heq)
    have happend := toNat_one_append (@unpackMantissa .binary64 x.toBits.toBitVec)
    rw [hbias, hwidth]
    exact ⟨happend.trans_lt (by omega), by omega, by omega,
      Or.inl (happend.symm ▸ Nat.le_add_right _ _)⟩

/-! ### Ranks -/

/-- The rank of a number: its bits without the sign, counted down from zero when it is
negative. -/
def rankOf : UnpackedFloat → ℤ
  | .notANumber => 0
  | .infinity s => s.apply infinityBits
  | .zero _ => 0
  | .finite s m e _ => s.apply (bitsOf m e)

/-- The bits of a positive finite number are below those of infinity. -/
theorem Canonical.bitsOf_lt {m : ℕ} {e : ℤ} (h : Canonical m e) : bitsOf m e < infinityBits := by
  obtain ⟨hlt, hlo, hhi, -⟩ := h
  simp only [bitsOf, infinityBits, fractions] at *
  omega

/-- A mantissa above zero has bits above those of zero. -/
theorem bitsOf_pos {m : ℕ} (h : 0 < m) (e : ℤ) : 0 < bitsOf m e := Nat.add_pos_right _ h

/-- The exponent comes first in the order of the bits. -/
theorem Canonical.bitsOf_lt_bitsOf {m n : ℕ} {e f : ℤ} (hm : Canonical m e) (hn : Canonical n f)
    (h : e < f) : bitsOf m e < bitsOf n f := by
  have hfull : fractions ≤ n := hn.full.resolve_right (by have := hm.lo; omega)
  obtain ⟨hlt, hlo, -, -⟩ := hm
  simp only [bitsOf, fractions] at *
  omega

/-- Comparing exponents and then mantissas is comparing bits. -/
theorem Canonical.compare_eq {m n : ℕ} {e f : ℤ} (hm : Canonical m e) (hn : Canonical n f) :
    (compare e f).then (compare m n) = compare (bitsOf m e : ℤ) (bitsOf n f) := by
  rcases lt_trichotomy e f with h | rfl | h
  · rw [compare_lt_iff_lt.2 h, compare_lt_iff_lt.2 (Nat.cast_lt.2 (hm.bitsOf_lt_bitsOf hn h))]
    rfl
  · -- At one exponent the mantissas decide.
    have hbits : (bitsOf m e : ℤ) < bitsOf n e ↔ m < n := by simp only [bitsOf]; omega
    have hbits' : (bitsOf n e : ℤ) < bitsOf m e ↔ n < m := by simp only [bitsOf]; omega
    rw [compare_eq_iff_eq.2 rfl, Ordering.eq_then, Nat.compare_eq_ite_lt, Int.compare_eq_ite_lt]
    simp only [hbits, hbits']
  · rw [compare_gt_iff_gt.2 h, compare_gt_iff_gt.2 (Nat.cast_lt.2 (hn.bitsOf_lt_bitsOf hm h))]
    rfl

/-- Below zero the order is the other way round. -/
theorem compare_neg_neg (i j : ℤ) : compare (-i) (-j) = (compare i j).swap := by
  rw [Int.compare_swap, Int.compare_eq_ite_lt, Int.compare_eq_ite_lt]
  simp only [neg_lt_neg_iff]

@[simp] theorem rankOf_zero (s : Sign) : rankOf (.zero s) = 0 := rfl

/-- Positive numbers have ranks above zero. -/
theorem rankOf_positive {m : ℕ} (h : 0 < m) (e : ℤ) : 0 < rankOf (.finite .positive m e h) :=
  Int.natCast_pos.2 (bitsOf_pos h e)

/-- Negative numbers have ranks below zero. -/
theorem rankOf_negative {m : ℕ} (h : 0 < m) (e : ℤ) : rankOf (.finite .negative m e h) < 0 :=
  neg_neg_of_pos (rankOf_positive h e)

/-- The infinities are beyond all other numbers. -/
theorem rankOf_mem_Ioo {a : UnpackedFloat} (h : IsCanonical a)
    (hinf : ∀ s, a = .infinity s → False) :
    rankOf a ∈ Set.Ioo (rankOf (.infinity .negative)) (rankOf (.infinity .positive)) := by
  have hpos : (0 : ℤ) < infinityBits := by decide
  cases a with
  | infinity s => exact (hinf s rfl).elim
  | notANumber => exact ⟨neg_neg_of_pos hpos, hpos⟩
  | zero s => exact ⟨neg_neg_of_pos hpos, hpos⟩
  | finite s m e hm =>
    -- The bits of a finite number are below those of infinity.
    have hlt := h.bitsOf_lt
    cases s <;> simp only [rankOf, Sign.apply, Set.mem_Ioo] <;> omega

/-- Two numbers are compared by their ranks. The cases are those of the comparison. -/
theorem compare_eq_compare_rank {a b : UnpackedFloat} (ha : IsCanonical a) (hb : IsCanonical b)
    (hna : a.isNaN = false) (hnb : b.isNaN = false) :
    a.compare b = some (compare (rankOf a) (rankOf b)) := by
  fun_cases UnpackedFloat.compare a b with
  | case1 => cases hna
  | case2 => cases hnb
  | case3 s t => cases s <;> cases t <;> rfl
  | case4 _ _ h => rw [compare_gt_iff_gt.2 (rankOf_mem_Ioo hb h).2]
  | case5 _ _ h => rw [compare_lt_iff_lt.2 (rankOf_mem_Ioo hb h).1]
  | case6 _ _ h => rw [compare_lt_iff_lt.2 (rankOf_mem_Ioo ha h).2]
  | case7 _ _ h => rw [compare_gt_iff_gt.2 (rankOf_mem_Ioo ha h).1]
  | case8 m e hm => rw [rankOf_zero, compare_gt_iff_gt.2 (rankOf_positive hm e)]
  | case9 m e hm => rw [rankOf_zero, compare_lt_iff_lt.2 (rankOf_negative hm e)]
  | case10 _ m e hm => rw [rankOf_zero, compare_lt_iff_lt.2 (rankOf_positive hm e)]
  | case11 _ m e hm => rw [rankOf_zero, compare_gt_iff_gt.2 (rankOf_negative hm e)]
  | case12 => rfl
  -- Both are negative, so the larger magnitude is the smaller number.
  | case13 m e hm n f hn =>
    exact congrArg some ((congrArg _ (ha.compare_eq hb)).trans (compare_neg_neg _ _).symm)
  | case14 m e hm n f hn =>
    rw [compare_lt_iff_lt.2 ((rankOf_negative hm e).trans (rankOf_positive hn f))]
  | case15 m e hm n f hn =>
    rw [compare_gt_iff_gt.2 ((rankOf_negative hn f).trans (rankOf_positive hm e))]
  | case16 m e hm n f hn => exact congrArg some (ha.compare_eq hb)

/-! ### Floats -/

/-- The rank of a number. -/
def rank (x : Float) : ℤ := rankOf x.toModel.unpack

/-- Two floats compare exactly if both are numbers, and then as their ranks do. -/
theorem compare_eq_some_iff {x y : Float} {o : Ordering} :
    x.toModel.unpack.compare y.toModel.unpack = some o ↔
      x.isNaN = false ∧ y.isNaN = false ∧ compare (rank x) (rank y) = o := by
  have hx := isCanonical_unpack x.toModel
  have hy := isCanonical_unpack y.toModel
  change _ ↔ x.toModel.unpack.isNaN = false ∧ y.toModel.unpack.isNaN = false ∧ _
  cases hnx : x.toModel.unpack.isNaN with
  | true =>
    rw [isNaN_iff.1 hnx]
    simp [UnpackedFloat.compare]
  | false =>
    cases hny : y.toModel.unpack.isNaN with
    | true =>
      rw [isNaN_iff.1 hny]
      cases x.toModel.unpack <;> simp [UnpackedFloat.compare]
    | false =>
      rw [compare_eq_compare_rank hx hy hnx hny]
      simp [rank]

/-- The order of numbers is that of their ranks. -/
theorem le_iff {x y : Float} :
    x ≤ y ↔ x.isNaN = false ∧ y.isNaN = false ∧ rank x ≤ rank y := by
  -- A comparison has no outcome if one of them is not a number.
  have hle : x ≤ y ↔ (x.toModel.unpack.compare y.toModel.unpack).any (·.isLE) = true :=
    decide_eq_true_iff
  rw [hle, Option.any_eq_true]
  simp only [compare_eq_some_iff]
  constructor
  · rintro ⟨o, ⟨hx, hy, rfl⟩, ho⟩
    exact ⟨hx, hy, Int.isLE_compare.1 ho⟩
  · rintro ⟨hx, hy, hrank⟩
    exact ⟨_, ⟨hx, hy, rfl⟩, Int.isLE_compare.2 hrank⟩

/-- The strict order of numbers is that of their ranks. -/
theorem lt_iff {x y : Float} :
    x < y ↔ x.isNaN = false ∧ y.isNaN = false ∧ rank x < rank y := by
  have hlt : x < y ↔ (x.toModel.unpack.compare y.toModel.unpack == some .lt) = true :=
    decide_eq_true_iff
  rw [hlt, beq_iff_eq, compare_eq_some_iff, compare_lt_iff_lt]

/-- Equality of numbers, for which the two zeros are one, is that of their ranks. -/
theorem beq_iff {x y : Float} :
    x == y ↔ x.isNaN = false ∧ y.isNaN = false ∧ rank x = rank y := by
  have hbeq : x == y ↔ (x.toModel.unpack.compare y.toModel.unpack == some .eq) = true := Iff.rfl
  rw [hbeq, beq_iff_eq, compare_eq_some_iff, compare_eq_iff_eq]

protected theorem not_le_of_lt {x y : Float} (h : x < y) : ¬ y ≤ x := fun h' =>
  (lt_iff.1 h).2.2.not_ge (le_iff.1 h').2.2

/-- A number is not beyond itself. -/
protected theorem le_self {x : Float} (h : x.isNaN = false) : x ≤ x := le_iff.2 ⟨h, h, le_rfl⟩

protected theorem le_trans {x y z : Float} (h : x ≤ y) (h' : y ≤ z) : x ≤ z := by
  obtain ⟨hx, -, hxy⟩ := le_iff.1 h
  obtain ⟨-, hz, hyz⟩ := le_iff.1 h'
  exact le_iff.2 ⟨hx, hz, hxy.trans hyz⟩

protected theorem lt_of_le_of_lt {x y z : Float} (h : x ≤ y) (h' : y < z) : x < z := by
  obtain ⟨hx, -, hxy⟩ := le_iff.1 h
  obtain ⟨-, hz, hyz⟩ := lt_iff.1 h'
  exact lt_iff.2 ⟨hx, hz, hxy.trans_lt hyz⟩

protected theorem lt_of_lt_of_le {x y z : Float} (h : x < y) (h' : y ≤ z) : x < z := by
  obtain ⟨hx, -, hxy⟩ := lt_iff.1 h
  obtain ⟨-, hz, hyz⟩ := le_iff.1 h'
  exact lt_iff.2 ⟨hx, hz, hxy.trans_le hyz⟩

protected theorem le_of_lt {x y : Float} (h : x < y) : x ≤ y := by
  obtain ⟨hx, hy, hxy⟩ := lt_iff.1 h
  exact le_iff.2 ⟨hx, hy, hxy.le⟩

protected theorem le_of_beq {x y : Float} (h : x == y) : x ≤ y := by
  obtain ⟨hx, hy, hxy⟩ := beq_iff.1 h
  exact le_iff.2 ⟨hx, hy, hxy.le⟩

protected theorem ge_of_beq {x y : Float} (h : x == y) : y ≤ x := by
  obtain ⟨hx, hy, hxy⟩ := beq_iff.1 h
  exact le_iff.2 ⟨hy, hx, hxy.ge⟩

/-- Floats in order are equal or strictly in order. -/
protected theorem lt_of_le_of_not_beq {x y : Float} (h : x ≤ y) (h' : ¬ x == y) : x < y := by
  obtain ⟨hx, hy, hxy⟩ := le_iff.1 h
  exact lt_iff.2 ⟨hx, hy, lt_of_le_of_ne hxy fun heq => h' (beq_iff.2 ⟨hx, hy, heq⟩)⟩

/-! ### Zero -/

/-- What is not a number has rank zero, so a rank above it is that of a number. -/
theorem isNaN_of_rank_pos {x : Float} (h : 0 < rank x) : x.isNaN = false := by
  show x.toModel.unpack.isNaN = false
  rw [rank] at h
  cases hx : x.toModel.unpack with
  | notANumber => exact (lt_irrefl _ (hx ▸ h)).elim
  | _ => rfl

theorem rank_zero : rank 0.0 = 0 := by decide

/-- A number is above zero if its rank is. -/
theorem zero_lt_iff {x : Float} : 0.0 < x ↔ 0 < rank x := by
  rw [lt_iff, rank_zero]
  exact ⟨fun h => h.2.2, fun h => ⟨by decide, isNaN_of_rank_pos h, h⟩⟩

end VocalScore.Binary64
