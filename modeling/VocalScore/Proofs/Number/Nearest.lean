import VocalScore.Proofs.Number.Bits

/-!
# Rounding a ratio to a number

`nearest` finds the exponent of a ratio from the binary logarithm of its two parts and rounds
the scaled ratio to a mantissa. This file relates these steps to the value of the ratio as a
rational number.

## Key results

- `floorLog2_spec`: a ratio lies between the power of two of its logarithm and the next one
- `nearest_eq_bitsOf`: a ratio that a number stands for exactly is rounded to that number
-/

namespace VocalScore.Binary64

/-- The value of a mantissa and an exponent. -/
def value (m : Nat) (e : Int) : ℚ := m * 2 ^ e

theorem scaled_pos {num den : Nat} (hnum : 0 < num) (hden : 0 < den) (e : Int) :
    0 < (scaled num den e).1 ∧ 0 < (scaled num den e).2 := by
  constructor
  · exact Nat.mul_pos hnum (Nat.pow_pos (by decide))
  · exact Nat.mul_pos hden (Nat.pow_pos (by decide))

/-- A scaled ratio is the ratio divided by a power of two. -/
theorem scaled_div (num : Nat) {den : Nat} (hden : 0 < den) (e : Int) :
    ((scaled num den e).1 : ℚ) / (scaled num den e).2 = num / den / 2 ^ e := by
  have hd : (den : ℚ) ≠ 0 := Nat.cast_ne_zero.2 hden.ne'
  have h2 : (2 : ℚ) ≠ 0 := two_ne_zero
  -- One of the two natural exponents is zero, whatever the sign of `e`.
  have hsplit : (2 : ℚ) ^ e * 2 ^ (-e).toNat = 2 ^ e.toNat := by
    rw [← zpow_natCast, ← zpow_natCast, ← zpow_add₀ h2]
    congr 1
    omega
  simp only [scaled, Nat.pow_eq]
  push_cast
  rw [div_div, div_eq_div_iff (mul_ne_zero hd (pow_ne_zero _ h2))
    (mul_ne_zero hd (zpow_ne_zero _ h2)), ← hsplit]
  ring

/-- `scaled num den e` compares a ratio with a power of two. -/
theorem scaled_le_iff {num den : Nat} (hnum : 0 < num) (hden : 0 < den) (e : Int) :
    (scaled num den e).2 ≤ (scaled num den e).1 ↔ (2 : ℚ) ^ e ≤ num / den := by
  obtain ⟨-, hpos⟩ := scaled_pos hnum hden e
  have h2 : (0 : ℚ) < 2 ^ e := zpow_pos two_pos e
  rw [← one_mul ((2 : ℚ) ^ e), ← le_div_iff₀ h2, ← scaled_div num hden e,
    le_div_iff₀ (Nat.cast_pos.2 hpos), one_mul, Nat.cast_le]

/-- The ratio lies between the power of two of its logarithm and the next. -/
theorem floorLog2_spec {num den : Nat} (hnum : 0 < num) (hden : 0 < den) :
    (2 : ℚ) ^ floorLog2 num den ≤ num / den ∧ (num : ℚ) / den < 2 ^ (floorLog2 num den + 1) := by
  have h2 : (2 : ℚ) ≠ 0 := two_ne_zero
  have hd : (0 : ℚ) < den := Nat.cast_pos.2 hden
  -- Both parts lie between powers of two, so their ratio does, but for a factor of two.
  have hn1 : (2 : ℚ) ^ (num.log2 : Int) ≤ num := by
    rw [zpow_natCast]; exact_mod_cast Nat.log2_self_le hnum.ne'
  have hn2 : (num : ℚ) < 2 ^ (num.log2 + 1 : Int) := by
    exact_mod_cast Nat.lt_log2_self (n := num)
  have hd1 : (2 : ℚ) ^ (den.log2 : Int) ≤ den := by
    rw [zpow_natCast]; exact_mod_cast Nat.log2_self_le hden.ne'
  have hd2 : (den : ℚ) < 2 ^ (den.log2 + 1 : Int) := by
    exact_mod_cast Nat.lt_log2_self (n := den)
  have hlower : (2 : ℚ) ^ ((num.log2 : Int) - den.log2 - 1) ≤ num / den := by
    rw [le_div_iff₀ hd]
    calc (2 : ℚ) ^ ((num.log2 : Int) - den.log2 - 1) * den
        ≤ 2 ^ ((num.log2 : Int) - den.log2 - 1) * 2 ^ (den.log2 + 1 : Int) :=
          mul_le_mul_of_nonneg_left hd2.le (zpow_pos two_pos _).le
      _ = 2 ^ (num.log2 : Int) := by rw [← zpow_add₀ h2]; congr 1; omega
      _ ≤ num := hn1
  have hupper : (num : ℚ) / den < 2 ^ ((num.log2 : Int) - den.log2 + 1) := by
    rw [div_lt_iff₀ hd]
    calc (num : ℚ) < 2 ^ (num.log2 + 1 : Int) := hn2
      _ = 2 ^ ((num.log2 : Int) - den.log2 + 1) * 2 ^ (den.log2 : Int) := by
          rw [← zpow_add₀ h2]; congr 1; omega
      _ ≤ 2 ^ ((num.log2 : Int) - den.log2 + 1) * den :=
          mul_le_mul_of_nonneg_left hd1 (zpow_pos two_pos _).le
  -- The comparison with the middle power decides which of the two intervals it is.
  simp only [floorLog2]
  split
  next h => exact ⟨(scaled_le_iff hnum hden _).1 h, hupper⟩
  next h =>
    rw [sub_add_cancel]
    exact ⟨hlower, lt_of_not_ge fun hge => h ((scaled_le_iff hnum hden _).2 hge)⟩

/-- The logarithm is the only whole number with that property. -/
theorem floorLog2_eq {num den : Nat} (hnum : 0 < num) (hden : 0 < den) {l : Int}
    (hlo : (2 : ℚ) ^ l ≤ num / den) (hhi : (num : ℚ) / den < 2 ^ (l + 1)) :
    floorLog2 num den = l := by
  obtain ⟨h1, h2⟩ := floorLog2_spec hnum hden
  have hle : l < floorLog2 num den + 1 :=
    (zpow_lt_zpow_iff_right₀ one_lt_two).1 (lt_of_le_of_lt hlo h2)
  have hge : floorLog2 num den < l + 1 :=
    (zpow_lt_zpow_iff_right₀ one_lt_two).1 (lt_of_le_of_lt h1 hhi)
  omega

/-- A ratio that is a number above zero has a numerator above zero. -/
private theorem pos_of_div_eq_value {num den m : Nat} {e : Int} (hm : 0 < m)
    (h : (num : ℚ) / den = value m e) : 0 < num := by
  refine Nat.pos_of_ne_zero ?_
  rintro rfl
  rw [Nat.cast_zero, zero_div, value] at h
  exact (mul_pos (Nat.cast_pos.2 hm) (zpow_pos two_pos e)).ne h

/-- The logarithm of a mantissa with an exponent. -/
theorem floorLog2_value {num den m : Nat} {e : Int} (hm : 0 < m) (hden : 0 < den)
    (h : (num : ℚ) / den = value m e) : floorLog2 num den = m.log2 + e := by
  have hp : (0 : ℚ) < 2 ^ e := zpow_pos two_pos e
  have hnum := pos_of_div_eq_value hm h
  have h1 : (2 : ℚ) ^ (m.log2 : Int) ≤ m := by
    rw [zpow_natCast]; exact_mod_cast Nat.log2_self_le hm.ne'
  have h2 : (m : ℚ) < 2 ^ (m.log2 + 1 : Int) := by
    exact_mod_cast Nat.lt_log2_self (n := m)
  -- The value lies between the power of its top bit and the next one.
  refine floorLog2_eq hnum hden ?_ ?_
  · rw [h, value, zpow_add₀ two_ne_zero]
    exact mul_le_mul_of_nonneg_right h1 hp.le
  · rw [h, value, add_right_comm, zpow_add₀ two_ne_zero]
    exact mul_lt_mul_of_pos_right h2 hp

/-- A ratio that a number stands for exactly is rounded to that number. -/
theorem nearest_eq_bitsOf {num den m : Nat} {e : Int} (hm : 0 < m) (hc : Canonical m e)
    (hden : 0 < den) (h : (num : ℚ) / den = value m e) : nearest num den = bitsOf m e := by
  obtain ⟨hlt, hlo, hhi, hfull⟩ := hc
  have hlog := floorLog2_value hm hden h
  have hnum := pos_of_div_eq_value hm h
  -- A full mantissa has its exponent from the logarithm; any other has the least exponent.
  have hexp : max (floorLog2 num den - 52) (-1074) = e := by
    have hup : m.log2 < 53 := (Nat.log2_lt hm.ne').2 hlt
    rcases hfull with hfull | rfl
    · have : 52 ≤ m.log2 := (Nat.le_log2 hm.ne').2 hfull
      omega
    · omega
  obtain ⟨-, hpos⟩ := scaled_pos hnum hden e
  -- At that exponent the scaled ratio is the mantissa itself, so nothing is rounded.
  have hn : (scaled num den e).1 = m * (scaled num den e).2 := by
    have hs := scaled_div num hden e
    rw [h, value, mul_div_assoc, div_self (zpow_ne_zero _ two_ne_zero), mul_one,
      div_eq_iff (Nat.cast_ne_zero.2 hpos.ne')] at hs
    exact_mod_cast hs
  simp only [nearest, if_neg hnum.ne', hexp, hn]
  rw [roundDiv_mul_right _ _ hpos, bitsOf, Nat.min_eq_left]
  simp only [infinityBits, fractions] at *
  omega

end VocalScore.Binary64
