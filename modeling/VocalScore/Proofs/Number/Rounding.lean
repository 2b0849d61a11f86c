import VocalScore.Proofs.Number.Order

/-!
# Rounding the results of arithmetic

The operations on numbers compute with mantissas of any length, round the result to one of the
length that the bits of a number hold, and pack it into bits. Rounding makes no zero of a
positive result that is a multiple of the least positive number, and changes nothing where the
result is a number.

## Key results

- `isPositive_normalize`, `IsPositive.rankOf_unpack_pack`: positive results stay so when they are
  rounded and packed
- `Canonical.roundWithAccuracy_eq`: a number is rounded to itself
-/

namespace VocalScore.Binary64

open Float.Model Float.Model.UnpackedFloat

/-! ### Shifting a mantissa -/

/-- A shift to the right divides the mantissa. -/
theorem mantissa_shiftRight (em : ExtendedMantissa) (n : ℕ) :
    (em >>> n).mantissa = em.mantissa / 2 ^ n := by
  induction n with
  | zero => simp [HShiftRight.hShiftRight, Nat.repeat]
  | succ n ih => rw [Nat.pow_succ, ← Nat.div_div_eq_div_mul, ← ih]; rfl

/-- What is known of the lost bits does not change the mantissa. -/
theorem mantissa_ofMantissaAndAccuracy (m : ℕ) (acc : Accuracy) :
    (ExtendedMantissa.ofMantissaAndAccuracy m acc).mantissa = m := by
  cases acc with
  | exact => rfl
  | inexact o => cases o <;> rfl

/-- Rounding goes up or leaves the mantissa. -/
theorem mantissa_le_roundedMantissa (em : ExtendedMantissa) :
    em.mantissa ≤ em.roundedMantissa := by
  rw [ExtendedMantissa.roundedMantissa]
  cases em.accuracy with
  | exact => exact Nat.le_refl _
  | inexact o => cases o <;> simp [Accuracy.roundToNearestEven]

/-- The exponent that a number of the given mantissa and exponent is brought to. -/
theorem targetExponent_eq (m : ℕ) (e : ℤ) :
    Format.binary64.targetExponent (totalExponent m e) = max (m.log2 - 52 + e) (-1074) := by
  have hbits : (Format.binary64.mantissaBits : ℤ) = 53 := rfl
  have hmin : Format.binary64.minExponent = -1074 := rfl
  rw [Format.targetExponent, totalExponent, hbits, hmin]
  omega

/-- Bringing a mantissa above zero to its exponent leaves as many bits of it as a number has, and
at least one. -/
theorem shiftToTargetExponent_spec {m : ℕ} {e : ℤ} (acc : Accuracy) (hm : 0 < m)
    (he : -1074 ≤ e) :
    0 < (shiftToTargetExponent .binary64 m e acc).1.mantissa ∧
      (shiftToTargetExponent .binary64 m e acc).1.mantissa < 2 * fractions ∧
      -1074 ≤ (shiftToTargetExponent .binary64 m e acc).2 := by
  simp only [shiftToTargetExponent, shiftToExponent, mantissa_shiftRight,
    mantissa_ofMantissaAndAccuracy, targetExponent_eq]
  -- The mantissa is shifted by as much as brings its top bit down to place 52, or less.
  obtain ⟨k, hk⟩ : ∃ k, k = (max (m.log2 - 52 + e) (-1074) - e).toNat := ⟨_, rfl⟩
  rw [← hk]
  refine ⟨Nat.div_pos ?_ (Nat.two_pow_pos k), Nat.div_lt_of_lt_mul ?_, by omega⟩
  · calc 2 ^ k ≤ 2 ^ m.log2 := Nat.pow_le_pow_right two_pos (by omega)
      _ ≤ m := Nat.log2_self_le hm.ne'
  · calc m < 2 ^ (m.log2 + 1) := Nat.lt_log2_self
      _ ≤ 2 ^ (k + 53) := Nat.pow_le_pow_right two_pos (by omega)
      _ = 2 ^ k * (2 * fractions) := Nat.pow_add 2 k 53

/-! ### Positive results -/

/-- Above zero, and short enough for the bits of a number unless it is too great. -/
inductive IsPositive : UnpackedFloat → Prop
  | infinity : IsPositive (.infinity .positive)
  | finite {m : ℕ} {e : ℤ} (hm : 0 < m) (hlt : m < 2 * fractions) (hlo : -1074 ≤ e) :
    IsPositive (.finite .positive m e hm)

/-- A mantissa above zero that is not too far down does not round to zero. -/
theorem isPositive_roundWithAccuracy {m : ℕ} {e : ℤ} (acc : Accuracy) (hm : 0 < m)
    (he : -1074 ≤ e) : IsPositive (roundWithAccuracy .binary64 .positive m e acc) := by
  obtain ⟨hpos, -, hexp⟩ := shiftToTargetExponent_spec acc hm he
  have hrounded := hpos.trans_le (mantissa_le_roundedMantissa _)
  obtain ⟨hpos', hlt, hexp'⟩ := shiftToTargetExponent_spec .exact hrounded hexp
  simp only [roundWithAccuracy]
  rw [dif_neg hpos'.ne']
  exact .finite hpos' hlt hexp'

/-- Nor does it if no bits were lost before. -/
theorem isPositive_round {m : ℕ} {e : ℤ} (hm : 0 < m) (he : -1074 ≤ e) :
    IsPositive (UnpackedFloat.round .binary64 .positive m e) := by
  simp only [UnpackedFloat.round, decreaseExponent, targetExponent_eq]
  refine isPositive_roundWithAccuracy .exact ?_ (by omega)
  rw [Nat.shiftLeft_eq]
  exact Nat.mul_pos hm (Nat.two_pow_pos _)

/-- An integer above zero is normalized to a positive number. -/
theorem isPositive_normalize {m : ℤ} {e : ℤ} (hm : 0 < m) (he : -1074 ≤ e) (s : Sign) :
    IsPositive (UnpackedFloat.normalize .binary64 m e s) := by
  rw [UnpackedFloat.normalize, compare_gt_iff_gt.2 hm]
  exact isPositive_round (by omega) he

/-- What the bits of a number can hold is short enough for them. -/
theorem IsCanonical.isPositive {u : UnpackedFloat} (h : IsCanonical u) (hpos : 0 < rankOf u) :
    IsPositive u := by
  cases u with
  | notANumber => exact (lt_irrefl _ hpos).elim
  | zero s => exact (lt_irrefl _ hpos).elim
  | infinity s =>
    cases s with
    | negative => exact absurd hpos (by decide)
    | positive => exact .infinity
  | finite s m e hm =>
    cases s with
    | negative => exact (hpos.not_gt (rankOf_negative hm e)).elim
    | positive => exact .finite hm h.lt h.lo

/-- Bits without the sign bit stand for a number above zero, unless all of them are zero. -/
theorem rankOf_unpack_packComponents {exponent : BitVec 11} {mantissa : BitVec 52}
    (hmax : exponent ≠ -1#11) (h : exponent = 0#11 → mantissa ≠ 0#52) :
    0 < rankOf (UnpackedFloat.unpack .binary64
      (packComponents .binary64 .positive exponent mantissa)) := by
  simp only [UnpackedFloat.unpack, unpackExponent_packComponents, unpackMantissa_packComponents,
    unpackSign_packComponents, Sign.ofBitVec_toBitVec]
  rw [if_neg hmax]
  split_ifs with hzero hfraction
  · exact (h hzero hfraction).elim
  · exact rankOf_positive _ _
  · exact rankOf_positive _ _

/-- The bits of a positive number are those of a positive number. -/
theorem IsPositive.rankOf_unpack_pack {u : UnpackedFloat} (h : IsPositive u) :
    0 < rankOf (Float.Model.pack u).unpack := by
  show 0 < rankOf (UnpackedFloat.unpack .binary64 (UnpackedFloat.pack .binary64 u))
  cases h with
  | infinity => decide
  | @finite m e hm hlt hlo =>
    have hbias : (e + (Format.binary64.exponentBias : ℕ) +
        (Format.binary64.mantissaBitsWithoutImplicit : ℕ)).toNat = (e + 1075).toNat := by
      show (e + (1023 : ℕ) + (52 : ℕ)).toNat = _
      omega
    simp only [UnpackedFloat.pack, hbias]
    split_ifs with hmax hfull
    · decide
    · -- A mantissa in full has an exponent above zero.
      have hexponent : (BitVec.ofNat 11 (e + 1075).toNat).toNat = (e + 1075).toNat :=
        Nat.mod_eq_of_lt (by omega)
      refine rankOf_unpack_packComponents (fun heq => ?_) (fun heq => ?_)
      · have : (e + 1075).toNat = 2047 := hexponent.symm.trans (congrArg BitVec.toNat heq)
        omega
      · have : (e + 1075).toNat = 0 := hexponent.symm.trans (congrArg BitVec.toNat heq)
        omega
    · -- A mantissa not in full is stored as it is, with exponent zero, and is not zero.
      have hlog : m.log2 < 53 := (Nat.log2_lt hm.ne').2 hlt
      have hlog' : m.log2 ≠ 52 := fun heq => hfull (by rw [heq]; rfl)
      have hsub : m < 2 ^ 52 := (Nat.log2_lt hm.ne').1 (by omega)
      refine rankOf_unpack_packComponents (by decide) (fun _ heq => hm.ne' ?_)
      rw [← Nat.mod_eq_of_lt hsub]
      exact congrArg BitVec.toNat heq

/-! ### Results that are numbers -/

/-- A shift to the left moves the top bit. -/
theorem log2_mul_two_pow {m : ℕ} (hm : 0 < m) (k : ℕ) : (m * 2 ^ k).log2 = m.log2 + k := by
  have hpos := Nat.two_pow_pos k
  rw [Nat.log2_eq_iff (Nat.mul_pos hm hpos).ne', Nat.add_right_comm, Nat.pow_add, Nat.pow_add]
  exact ⟨Nat.mul_le_mul_right _ (Nat.log2_self_le hm.ne'),
    Nat.mul_lt_mul_of_pos_right Nat.lt_log2_self hpos⟩

/-- Zeros at the end of a mantissa are shifted out without a trace. -/
theorem shiftRight_mul_two_pow (m k : ℕ) :
    ExtendedMantissa.ofMantissaAndAccuracy (m * 2 ^ k) .exact >>> k = ⟨m, false, false⟩ := by
  induction k generalizing m with
  | zero => rw [Nat.pow_zero, Nat.mul_one]; rfl
  | succ k ih =>
    -- All bits that are shifted out are zero, so nothing is noted of them.
    have hshift : ExtendedMantissa.ofMantissaAndAccuracy (m * 2 ^ (k + 1)) .exact >>> (k + 1) =
        ExtendedMantissa.shiftRightOne
          (ExtendedMantissa.ofMantissaAndAccuracy (2 * m * 2 ^ k) .exact >>> k) := by
      rw [show 2 * m * 2 ^ k = m * 2 ^ (k + 1) by ring]
      rfl
    rw [hshift, ih]
    simp [ExtendedMantissa.shiftRightOne]

/-- A canonical exponent is the one that its number is brought to. -/
theorem Canonical.max_log2 {m : ℕ} {e : ℤ} (h : Canonical m e) (hm : 0 < m) :
    max ((m.log2 : ℤ) - 52 + e) (-1074) = e := by
  have hlog : m.log2 < 53 := (Nat.log2_lt hm.ne').2 h.lt
  rcases h.full with hfull | rfl
  · have : 52 ≤ m.log2 := (Nat.le_log2 hm.ne').2 hfull
    have := h.lo
    omega
  · omega

/-- Bringing a canonical mantissa to its exponent takes away the zeros at its end. -/
theorem Canonical.shiftToTargetExponent_eq {m : ℕ} {e : ℤ} (h : Canonical m e) (hm : 0 < m)
    (k : ℕ) : shiftToTargetExponent .binary64 (m * 2 ^ k) (e - k) .exact =
      (⟨m, false, false⟩, e) := by
  have hmax := h.max_log2 hm
  -- The shift undoes the zeros that were put behind the mantissa.
  have hamount : (max (((m * 2 ^ k).log2 : ℤ) - 52 + (e - k)) (-1074) - (e - k)).toNat = k := by
    rw [log2_mul_two_pow hm]
    omega
  simp only [shiftToTargetExponent, shiftToExponent, targetExponent_eq, hamount,
    shiftRight_mul_two_pow]
  congr 1
  omega

/-- A canonical mantissa with zeros at its end is rounded to itself. -/
theorem Canonical.roundWithAccuracy_eq {m : ℕ} {e : ℤ} (h : Canonical m e) (hm : 0 < m) (s : Sign)
    (k : ℕ) : roundWithAccuracy .binary64 s (m * 2 ^ k) (e - k) .exact = .finite s m e hm := by
  have hshift := h.shiftToTargetExponent_eq hm k
  have hshift0 := h.shiftToTargetExponent_eq hm 0
  rw [Nat.pow_zero, Nat.mul_one, Nat.cast_zero, sub_zero] at hshift0
  have hrounded : ExtendedMantissa.roundedMantissa ⟨m, false, false⟩ = m := rfl
  simp only [roundWithAccuracy, hshift, hrounded, hshift0, dif_neg hm.ne']

/-! ### The bits of a number -/

/-- A float that is unpacked and packed again is the same. -/
theorem pack_unpack (x : Float) : Float.ofModel (.pack x.toModel.unpack) = x :=
  Float.toBits_inj.1 (UInt64.toBitVec_inj.1 (pack_unpack_of_valid x.toModel.valid))

/-- A zero that is packed and unpacked keeps its sign. -/
theorem unpack_pack_zero (s : Sign) : (Float.Model.pack (.zero s)).unpack = .zero s :=
  unpack_packedZero

end VocalScore.Binary64
