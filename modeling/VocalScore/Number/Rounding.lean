/-!
# Rounding a quotient to a whole number

`roundDiv` rounds `num / den` to the nearest whole number; a `Tie` says which neighbour is
taken when the quotient lies exactly half way.
-/

namespace VocalScore

/-- Which neighbour a quotient half way between two whole numbers goes to. -/
inductive Tie where
  /-- The even neighbour. -/
  | toEven
  /-- The greater neighbour. -/
  | up
  deriving DecidableEq, Repr

/-- Round `num / den` to the nearest whole number. -/
def roundDiv (tie : Tie) (num den : Nat) : Nat :=
  let q := num / den
  let r := num % den
  if 2 * r < den then q
  else if den < 2 * r then q + 1
  else match tie with
    | .toEven => q + q % 2
    | .up => q + 1

/-- A whole quotient is kept. -/
theorem roundDiv_mul_right (tie : Tie) (q : Nat) {den : Nat} (h : 0 < den) :
    roundDiv tie (q * den) den = q := by
  simp [roundDiv, h]

/-- The rounded quotient is at most half a unit above the quotient. -/
theorem roundDiv_upper (tie : Tie) (num : Nat) {den : Nat} (h : 0 < den) :
    2 * (roundDiv tie num den * den) ≤ 2 * num + den := by
  have hd := Nat.div_add_mod num den
  have hr := Nat.mod_lt num h
  rw [Nat.mul_comm] at hd
  have h2 : (num / den + 1) * den = num / den * den + den := by rw [Nat.add_mul, Nat.one_mul]
  simp only [roundDiv]
  split
  · omega
  · split
    · omega
    · cases tie with
      | up => simp only; omega
      | toEven =>
        simp only
        rcases Nat.mod_two_eq_zero_or_one (num / den) with h1 | h1 <;> rw [h1]
        · simp only [Nat.add_zero]; omega
        · omega

/-- The rounded quotient is at most half a unit below the quotient. -/
theorem roundDiv_lower (tie : Tie) (num : Nat) {den : Nat} (h : 0 < den) :
    2 * num ≤ 2 * (roundDiv tie num den * den) + den := by
  have hd := Nat.div_add_mod num den
  have hr := Nat.mod_lt num h
  rw [Nat.mul_comm] at hd
  have h2 : (num / den + 1) * den = num / den * den + den := by rw [Nat.add_mul, Nat.one_mul]
  simp only [roundDiv]
  split
  · omega
  · split
    · omega
    · cases tie with
      | up => simp only; omega
      | toEven =>
        simp only
        rcases Nat.mod_two_eq_zero_or_one (num / den) with h1 | h1 <;> rw [h1]
        · simp only [Nat.add_zero]; omega
        · omega

end VocalScore
