import VocalScore.Number.Shortest
import VocalScore.Proofs.Number.Nearest

/-!
# The shortest decimal reads back

`Decimal.shortest` keeps a grid point only if it reads back, and writes the number out in full
if no grid has one. Either way the result reads back: for a grid point that was tested, and the
full form stands for exactly the number.

## Key results

- `value_exact`: the full form of a number has its value
- `toBits_shortest`: the shortest decimal of a number, written in full, reads back as it
-/

namespace VocalScore.Decimal

open Binary64

/-- A decimal with an exponent in range is rounded as a ratio. -/
private theorem toBits_eq_nearest {d : Decimal} (h0 : d.significand ≠ 0) (hhi : d.exponent ≤ 400)
    (hlo : -(400 + d.significand.log2 : Int) ≤ d.exponent) :
    d.toBits = nearest d.ratio.1 d.ratio.2 := by
  rw [toBits, if_neg h0, if_neg (by omega), if_neg (by omega)]

/-- A binary number needs decimal places only for a negative exponent. -/
theorem exponent_exact (m : Nat) (e : Int) : (exact m e).exponent = min e 0 := by
  unfold exact
  split
  next h => exact (min_eq_right h).symm
  next h => exact (min_eq_left (not_le.1 h).le).symm

/-- An exact decimal number has no positive exponent to write out as zeros. -/
theorem unscaled_exact (m : Nat) (e : Int) : (exact m e).unscaled = exact m e := by
  have he := exponent_exact m e
  generalize exact m e = d at he
  obtain ⟨n, k⟩ := d
  replace he : k = min e 0 := he
  have hle : k ≤ 0 := by omega
  have hk : k.toNat = 0 := by omega
  rw [unscaled, hk, min_eq_left hle, Nat.pow_eq, Nat.pow_zero, Nat.mul_one]

/-- The exact decimal number is the binary one. -/
theorem value_exact (m : Nat) (e : Int) :
    ((exact m e).ratio.1 : ℚ) / (exact m e).ratio.2 = value m e := by
  have h2 : (2 : ℚ) ≠ 0 := two_ne_zero
  unfold exact
  split
  next h =>
    obtain ⟨k, rfl⟩ := Int.eq_ofNat_of_zero_le h
    simp [ratio, value]
  next h =>
    -- A power of two below the point is a power of five over a power of ten.
    obtain ⟨k, rfl⟩ : ∃ k : Nat, e = -k := ⟨(-e).toNat, by omega⟩
    have hneg : (-(k : Int)).toNat = 0 := by omega
    have h10 : (10 : ℚ) ^ k = 5 ^ k * 2 ^ k := by rw [← mul_pow]; norm_num
    have h5 : (5 : ℚ) ^ k ≠ 0 := pow_ne_zero _ (by norm_num)
    simp only [ratio, value, neg_neg, Int.toNat_natCast, hneg, Nat.pow_eq, Nat.pow_zero]
    push_cast
    rw [h10, zpow_neg, zpow_natCast, mul_one, ← div_eq_mul_inv,
      mul_comm (m : ℚ), mul_div_mul_left _ _ h5]

/-- An exact decimal number is zero only if its mantissa is. -/
private theorem significand_exact_ne_zero {m : Nat} (hm : 0 < m) (e : Int) :
    (exact m e).significand ≠ 0 := by
  unfold exact
  split
  · exact Nat.mul_ne_zero hm.ne' (Nat.pow_pos (by decide)).ne'
  · exact Nat.mul_ne_zero hm.ne' (Nat.pow_pos (by decide)).ne'

/-- The full form of a number reads back as it. -/
theorem toBits_exact {m : Nat} {e : Int} (hm : 0 < m) (hc : Canonical m e) :
    (exact m e).toBits = bitsOf m e := by
  have hden : 0 < (exact m e).ratio.2 := Nat.pow_pos (by decide)
  have hexp := exponent_exact m e
  have hhi := hc.hi
  rw [toBits_eq_nearest (significand_exact_ne_zero hm e) (by omega) ?_,
    nearest_eq_bitsOf hm hc hden (value_exact m e)]
  -- It remains that the exponent is not so low that `toBits` gives zero without rounding.
  rw [hexp]
  unfold exact
  split
  · omega
  next h =>
    -- Five to a power has more than twice as many binary digits.
    obtain ⟨k, rfl⟩ : ∃ k : Nat, e = -k := ⟨(-e).toNat, by omega⟩
    simp only [neg_neg, Int.toNat_natCast, Nat.pow_eq]
    have hne : m * 5 ^ k ≠ 0 := Nat.mul_ne_zero hm.ne' (Nat.pow_pos (by decide)).ne'
    have hpow : 2 ^ (2 * k) ≤ m * 5 ^ k := by
      rw [Nat.pow_mul]
      exact le_trans (Nat.pow_le_pow_left (by decide) k) (Nat.le_mul_of_pos_left _ hm)
    have hlog : 2 * k ≤ (m * 5 ^ k).log2 := (Nat.le_log2 hne).2 hpow
    omega

/-- A grid point is kept only if it reads back. -/
theorem toBits_of_onGrid {tie : Tie} {bits num den : Nat} {e : Int} {d : Decimal}
    (h : onGrid tie bits num den e = some d) : d.unscaled.toBits = bits := by
  have hfound := List.find?_some h
  exact beq_iff_eq.1 hfound

/-- The shortest decimal of a number, written in full, reads back as it. -/
theorem toBits_shortest (tie : Tie) {m : Nat} {e : Int} (hm : 0 < m) (hc : Canonical m e) :
    (shortest tie m e).unscaled.toBits = bitsOf m e := by
  have hvalue : ((Binary64.scaled m 1 (-e)).1 : ℚ) / (Binary64.scaled m 1 (-e)).2 = value m e := by
    rw [scaled_div m Nat.one_pos, Nat.cast_one, div_one, zpow_neg, div_inv_eq_mul, value]
  have hbits := nearest_eq_bitsOf hm hc (scaled_pos hm Nat.one_pos (-e)).2 hvalue
  simp only [shortest, hbits]
  -- A decimal on a grid was tried before it was taken, and the exact one needs no trial.
  cases hgrid : (List.range 17).findSome? fun i : Nat => onGrid tie (bitsOf m e) _ _ _ with
  | none =>
    rw [Option.getD_none, unscaled_exact]
    exact toBits_exact hm hc
  | some d =>
    obtain ⟨i, -, hi⟩ := List.exists_of_findSome?_eq_some hgrid
    exact toBits_of_onGrid hi

end VocalScore.Decimal
