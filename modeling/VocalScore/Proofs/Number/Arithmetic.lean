import VocalScore.Proofs.Number.Rounding

/-!
# Arithmetic on numbers

A few laws of the numbers that hold in spite of rounding. They are stated for all numbers they
hold for, with the infinities and the two zeros among them.

## Key results

- `zero_lt_sub`: the difference of a number and a smaller one is above zero
- `div_self_of_pos`: a finite number above zero divided by itself is one
- `Binary64.mul_one`, `mul_zero_add_beq`: one and zero in products and sums
- `same_add_mul_zero_iff`: when a product with zero leaves a sum as it is
-/

namespace VocalScore.Binary64

open Float.Model Float.Model.UnpackedFloat

/-! ### Differences -/

/-- Two mantissas brought to the smaller exponent are in the order of the numbers. -/
theorem Canonical.aligned_lt {m n : ℕ} {e f : ℤ} (hm : Canonical m e) (hn : Canonical n f)
    (h : bitsOf m e < bitsOf n f) :
    m <<< (e - min e f).toNat < n <<< (f - min e f).toNat := by
  simp only [Nat.shiftLeft_eq]
  rcases lt_trichotomy e f with hef | rfl | hef
  · -- The greater number has a mantissa in full, which is shifted at least once.
    have hfull : fractions ≤ n := hn.full.resolve_right (by have := hm.lo; omega)
    rw [min_eq_left hef.le, sub_self, Int.toNat_zero, pow_zero, mul_one]
    calc m < fractions * 2 ^ 1 := hm.lt
      _ ≤ n * 2 ^ (f - e).toNat :=
        Nat.mul_le_mul hfull (Nat.pow_le_pow_right two_pos (by omega))
  · rw [min_self, sub_self, Int.toNat_zero, pow_zero, mul_one, mul_one]
    exact Nat.lt_of_add_lt_add_left h
  · exact (h.not_gt (hn.bitsOf_lt_bitsOf hm hef)).elim

/-- The mantissa of a difference, before it is rounded, is above zero. -/
theorem aligned_sub_pos {s t : Sign} {m n : ℕ} {e f : ℤ} {hm : 0 < m} {hn : 0 < n}
    (ha : IsCanonical (.finite s m e hm)) (hb : IsCanonical (.finite t n f hn))
    (h : rankOf (.finite s m e hm) < rankOf (.finite t n f hn)) :
    0 < t.apply (n <<< (f - min f e).toNat : ℕ) - s.apply (m <<< (e - min f e).toNat : ℕ) := by
  have hmpos : 0 < m <<< (e - min f e).toNat := by
    rw [Nat.shiftLeft_eq]; exact Nat.mul_pos hm (Nat.two_pow_pos _)
  have hnpos : 0 < n <<< (f - min f e).toNat := by
    rw [Nat.shiftLeft_eq]; exact Nat.mul_pos hn (Nat.two_pow_pos _)
  -- Of two numbers below zero the larger one has the smaller magnitude.
  cases s with
  | negative =>
    cases t with
    | negative =>
      have := Canonical.aligned_lt hb ha (Nat.cast_lt.1 (neg_lt_neg_iff.1 h))
      simp only [Sign.apply]
      omega
    | positive =>
      simp only [Sign.apply]
      omega
  | positive =>
    cases t with
    | negative => exact ((rankOf_negative hn f).trans (rankOf_positive hm e)).not_gt h |>.elim
    | positive =>
      have := Canonical.aligned_lt ha hb (Nat.cast_lt.1 h)
      simp only [Sign.apply, min_comm f e]
      omega

/-- The smaller number taken from the larger one leaves a positive one. -/
theorem isPositive_sub {a b : UnpackedFloat} (ha : IsCanonical a) (hb : IsCanonical b)
    (hna : a.isNaN = false) (hnb : b.isNaN = false) (h : rankOf a < rankOf b) :
    IsPositive (UnpackedFloat.sub .binary64 b a) := by
  fun_cases UnpackedFloat.sub .binary64 b a with
  | case1 => cases hnb
  | case2 => cases hna
  | case3 s t _ =>
    cases s with
    | positive => exact .infinity
    | negative => cases t <;> exact absurd h (by decide)
  | case4 s t hne =>
    cases s <;> cases t <;> first | exact (hne rfl).elim | exact (lt_irrefl _ h).elim
  | case5 s _ _ hinf =>
    cases s with
    | positive => exact .infinity
    | negative => exact ((rankOf_mem_Ioo ha hinf).1.not_gt h).elim
  | case6 _ s _ hinf =>
    cases s with
    | positive => exact ((rankOf_mem_Ioo hb hinf).2.not_gt h).elim
    | negative => exact .infinity
  | case7 => exact (lt_irrefl _ h).elim
  | case8 => exact (lt_irrefl _ h).elim
  -- A zero on the left: what is taken away has to be negative.
  | case9 _ s m e hm =>
    cases s with
    | positive => exact ((rankOf_positive hm e).not_gt h).elim
    | negative => exact .finite hm ha.lt ha.lo
  | case10 => exact hb.isPositive h
  -- Two finite numbers are brought to one exponent before they are subtracted.
  | case11 s m e hm t n f hn _ m' _ hm' n' _ hn' =>
    obtain ⟨rfl, -⟩ := Prod.mk.inj hm'
    obtain ⟨rfl, -⟩ := Prod.mk.inj hn'
    exact isPositive_normalize (aligned_sub_pos ha hb h) (le_min hb.lo ha.lo) .positive

/-- A number less a smaller one is above zero. -/
theorem zero_lt_sub {x y : Float} (h : x < y) : 0.0 < y - x := by
  obtain ⟨hx, hy, hrank⟩ := lt_iff.1 h
  exact zero_lt_iff.2
    (isPositive_sub (isCanonical_unpack _) (isCanonical_unpack _) hx hy hrank).rankOf_unpack_pack

/-- Equal numbers, the two zeros among them, have the same difference to a smaller one. -/
theorem sub_eq_sub_of_beq {x y z : Float} (h : x == y) (hz : z < x) : x - z = y - z := by
  obtain ⟨hnz, -, hrank⟩ := lt_iff.1 hz
  -- The differences of the zeros are distinct only where a zero is taken from them.
  have hzero (hx : rank x = 0) (s t : Sign) : UnpackedFloat.sub .binary64 (.zero s) z.toModel.unpack
      = UnpackedFloat.sub .binary64 (.zero t) z.toModel.unpack := by
    rw [hx, rank] at hrank
    cases hu : z.toModel.unpack with
    | zero u => exact (lt_irrefl _ (hu ▸ hrank)).elim
    | _ => rfl
  obtain ⟨-, -, rfl | ⟨rfl, rfl⟩ | ⟨rfl, rfl⟩⟩ := Float.beq_iff_ne_nan_and_eq.1 h
  · rfl
  · exact congrArg (fun u => Float.ofModel (.pack u)) (hzero (by decide) .positive .negative)
  · exact congrArg (fun u => Float.ofModel (.pack u)) (hzero (by decide) .negative .positive)

/-! ### Ratios -/

/-- Dividing a mantissa by itself gives one, with all the bits of a mantissa. -/
theorem divCore_self {m : ℕ} (hm : 0 < m) (e : ℤ) :
    divCore .binary64 m e m e = (2 ^ 53, -53, .exact) := by
  have htarget : Format.binary64.targetExponent 0 = -53 := by decide
  simp only [divCore, sub_self, htarget]
  rw [Nat.shiftLeft_eq]
  show (m * 2 ^ 53 / m, (-53 : ℤ), accuracyOfFraction (m * 2 ^ 53 % m) m) = _
  rw [Nat.mul_div_cancel_left _ hm, Nat.mul_mod_right]
  rfl

/-- A number above zero divided by itself is one, if it is finite. -/
theorem div_self_of_pos {x : Float} (h : 0.0 < x) :
    x / x = if x.isFinite then 1.0 else nan := by
  have hpos : 0 < rankOf x.toModel.unpack := zero_lt_iff.1 h
  show Float.ofModel (.pack (UnpackedFloat.div .binary64 x.toModel.unpack x.toModel.unpack)) =
    if x.toModel.unpack.isFinite then 1.0 else nan
  cases hx : x.toModel.unpack with
  | notANumber => exact (lt_irrefl _ (hx ▸ hpos)).elim
  | infinity s => cases s <;> rfl
  | zero s => exact (lt_irrefl _ (hx ▸ hpos)).elim
  | finite s m e hm =>
    -- The mantissas divide to one with no remainder, so nothing is rounded.
    have hdiv : UnpackedFloat.div .binary64 (.finite s m e hm) (.finite s m e hm) =
        roundWithAccuracy .binary64 (s / s) (2 ^ 53) (-53) .exact := by
      simp only [UnpackedFloat.div, divCore_self hm]
    have hsign : s / s = .positive := by cases s <;> rfl
    rw [hdiv, hsign]
    show _ = (1.0 : Float)
    decide +kernel

/-! ### One and zero -/

/-- One has the smallest mantissa in full. -/
theorem unpack_one :
    (1.0 : Float).toModel.unpack = .finite .positive (2 ^ 52) (-52) (by decide) := by
  rfl

/-- A number times one is itself. -/
protected theorem mul_one (x : Float) : x * 1.0 = x := by
  have hmul : UnpackedFloat.mul .binary64 x.toModel.unpack (1.0 : Float).toModel.unpack =
      x.toModel.unpack := by
    have hcanonical := isCanonical_unpack x.toModel
    have hsign (s : Sign) : s * .positive = s := by cases s <;> rfl
    rw [unpack_one]
    cases hx : x.toModel.unpack with
    | notANumber => rfl
    | infinity s => rw [UnpackedFloat.mul, hsign]
    | zero s => rw [UnpackedFloat.mul, hsign]
    -- The product has 52 more bits, all of them zero, and rounds back to the first factor.
    | finite s m e hm =>
      rw [hx] at hcanonical
      rw [UnpackedFloat.mul, hsign]
      exact Canonical.roundWithAccuracy_eq hcanonical hm s 52
  exact (congrArg (fun u => Float.ofModel (.pack u)) hmul).trans (pack_unpack x)

/-- A finite number times zero is a zero. -/
theorem exists_unpack_mul_zero {x : Float} (h : x.isFinite) :
    ∃ s, (x * 0.0).toModel.unpack = .zero s := by
  replace h : x.toModel.unpack.isFinite = true := h
  -- Only what is infinite or no number has a product with zero that is no zero.
  have hmul : ∃ s, UnpackedFloat.mul .binary64 x.toModel.unpack (.zero .positive) = .zero s := by
    cases hx : x.toModel.unpack with
    | notANumber => rw [hx] at h; cases h
    | infinity s => rw [hx] at h; cases h
    | zero s => exact ⟨_, rfl⟩
    | finite s m e hm => exact ⟨_, rfl⟩
  obtain ⟨s, hs⟩ := hmul
  exact ⟨s, (congrArg (fun u => (Float.Model.pack u).unpack) hs).trans (unpack_pack_zero s)⟩

/-- Adding a zero gives an equal number. -/
theorem zero_add_beq {x y : Float} {s : Sign} (hx : x.toModel.unpack = .zero s)
    (hy : y.isNaN = false) : x + y == y := by
  have hself : y == y := beq_iff.2 ⟨hy, hy, rfl⟩
  have hadd : x + y = Float.ofModel (.pack (UnpackedFloat.add .binary64 (.zero s)
      y.toModel.unpack)) := by rw [← hx]; rfl
  have hne (h : ∀ t, y.toModel.unpack ≠ .zero t) : x + y = y := by
    have hsum : UnpackedFloat.add .binary64 (.zero s) y.toModel.unpack = y.toModel.unpack := by
      cases hu : y.toModel.unpack with
      | zero t => exact (h t hu).elim
      | _ => rfl
    rw [hadd, hsum, pack_unpack]
  by_cases hzero : ∃ t, y.toModel.unpack = .zero t
  · -- The sum of two zeros is a zero, though it need not be the second of them.
    obtain ⟨t, ht⟩ := hzero
    have hsum : ∃ u, UnpackedFloat.add .binary64 (.zero s) (.zero t) = .zero u := by
      cases s <;> cases t <;> exact ⟨_, rfl⟩
    obtain ⟨u, hu⟩ := hsum
    have hunpack : (x + y).toModel.unpack = .zero u := by
      rw [hadd, ht, hu]; exact unpack_pack_zero u
    have hnan : (x + y).isNaN = false := by
      show (x + y).toModel.unpack.isNaN = false
      rw [hunpack]; rfl
    exact beq_iff.2 ⟨hnan, hy, by rw [rank, rank, hunpack, ht]; rfl⟩
  · rwa [hne fun t ht => hzero ⟨t, ht⟩]

/-- A product with zero is no part of a sum. -/
theorem mul_zero_add_beq {x y : Float} (hx : x.isFinite) (hy : y.isNaN = false) :
    x * 0.0 + y == y := by
  obtain ⟨s, hs⟩ := exists_unpack_mul_zero hx
  exact zero_add_beq hs hy

/-! ### Sums that keep a number -/

/-- Numbers are added in any order. -/
protected theorem add_comm (x y : Float) : x + y = y + x := by
  have hadd : UnpackedFloat.add .binary64 x.toModel.unpack y.toModel.unpack =
      UnpackedFloat.add .binary64 y.toModel.unpack x.toModel.unpack := by
    cases x.toModel.unpack <;> cases y.toModel.unpack <;> try rfl
    case infinity.infinity s t => cases s <;> cases t <;> rfl
    case zero.zero s t => cases s <;> cases t <;> rfl
    -- The aligned mantissas are summed as integers.
    case finite.finite s m e hm t n f hn =>
      simp only [UnpackedFloat.add, min_comm f e, Int.add_comm]
  exact congrArg (fun u => Float.ofModel (.pack u)) hadd

/-- Two numbers are equal, or neither is a number. -/
def Same (x y : Float) : Prop := x == y ∨ x.isNaN = true ∧ y.isNaN = true

/-- Everything is the same as itself. -/
theorem same_self (x : Float) : Same x x := by
  cases h : x.isNaN with
  | true => exact Or.inr ⟨h, h⟩
  | false => exact Or.inl (beq_iff.2 ⟨h, h, rfl⟩)

/-- What is added to something that is no number is no number. -/
theorem isNaN_add {x y : Float} (h : y.isNaN = true) : (x + y).isNaN = true := by
  have hnan : y.toModel.unpack = .notANumber := isNaN_iff.1 h
  have hadd : UnpackedFloat.add .binary64 x.toModel.unpack .notANumber = .notANumber := by
    cases x.toModel.unpack <;> rfl
  show (Float.Model.pack (UnpackedFloat.add .binary64 x.toModel.unpack
    y.toModel.unpack)).unpack.isNaN = true
  rw [hnan, hadd]
  decide +kernel

/-- An infinity times zero is no number. -/
theorem isNaN_mul_zero {x : Float} (h : x.isFinite = false) : (x * 0.0).isNaN = true := by
  replace h : x.toModel.unpack.isFinite = false := h
  have hmul : UnpackedFloat.mul .binary64 x.toModel.unpack (.zero .positive) = .notANumber := by
    cases hx : x.toModel.unpack with
    | notANumber => rfl
    | infinity s => rfl
    | zero s => rw [hx] at h; cases h
    | finite s m e hm => rw [hx] at h; cases h
  show (Float.Model.pack (UnpackedFloat.mul .binary64 x.toModel.unpack
    (.zero .positive))).unpack.isNaN = true
  rw [hmul]
  decide +kernel

/-- A product with zero is no part of a sum, unless it is no number. -/
theorem same_add_mul_zero_iff {x w : Float} :
    Same (x + w * 0.0) x ↔ w.isFinite = true ∨ x.isNaN = true := by
  cases hx : x.isNaN with
  | true =>
    have hsum : (x + w * 0.0).isNaN = true := by rw [Binary64.add_comm]; exact isNaN_add hx
    exact iff_of_true (Or.inr ⟨hsum, hx⟩) (Or.inr rfl)
  | false =>
    cases hw : w.isFinite with
    | true =>
      have hsum := mul_zero_add_beq hw hx
      rw [Binary64.add_comm] at hsum
      exact iff_of_true (Or.inl hsum) (Or.inl rfl)
    | false =>
      -- An infinite factor or none at all makes the product not a number, and so the sum.
      have hsum := isNaN_add (x := x) (isNaN_mul_zero hw)
      refine iff_of_false ?_ (by simp)
      rintro (h | ⟨-, h⟩)
      · rw [(beq_iff.1 h).1] at hsum
        cases hsum
      · rw [hx] at h
        cases h
end VocalScore.Binary64
