import VocalScore.Number.Decimal

/-!
# The shortest decimal that reads back

`shortest` finds, for a finite number above zero, the decimal with the fewest digits that reads
back as that number, and among those the nearest to it. Grids of 1, 2, … 17 digits are tried in
turn: a decimal of a grid reads back only if one of the two grid points around the number does.
-/

namespace VocalScore.Decimal

/-- How many digits a whole number has; zero has none. -/
def digitCount (n : Nat) : Nat :=
  if n = 0 then 0 else digitCount (n / 10) + 1
decreasing_by exact Nat.div_lt_self (by omega) (by omega)

/-- The greatest `k` with `10 ^ k ≤ num / den`, for a ratio above zero. -/
def floorLog10 (num den : Nat) : Int :=
  if den ≤ num then digitCount (num / den) - 1 else -(digitCount ((den - 1) / num) : Int)

/-- The ratio `num / den` divided by `10 ^ e`, as a ratio of whole numbers. -/
def scaled (num den : Nat) (e : Int) : Nat × Nat :=
  (num * Nat.pow 10 (-e).toNat, den * Nat.pow 10 e.toNat)

/-- Move the zeros at the end of a significand into the exponent. -/
def normalize (d : Decimal) : Decimal :=
  if d.significand ≠ 0 ∧ d.significand % 10 = 0 then
    normalize ⟨d.significand / 10, d.exponent + 1⟩
  else d
termination_by d.significand
decreasing_by simp_all; exact Nat.div_lt_self (by omega) (by omega)

/-- Write a decimal without a positive exponent. -/
def unscaled (d : Decimal) : Decimal :=
  ⟨d.significand * Nat.pow 10 d.exponent.toNat, min d.exponent 0⟩

/-- Whether a decimal, written in full, reads back as the number with the given bits. -/
def readsAs (bits : Nat) (d : Decimal) : Bool := d.unscaled.toBits == bits

/-- Of the two grid points `10 ^ e` apart around `num / den`, the nearest that reads back. -/
def onGrid (tie : Tie) (bits num den : Nat) (e : Int) : Option Decimal :=
  let (n, d) := scaled num den e
  let near := roundDiv tie n d
  -- Where the nearest does not read back the other still can, at a power of two: the interval
  -- around the value is wider on one side there.
  let other := if near = n / d then near + 1 else n / d
  [near, other].map (fun s => normalize ⟨s, e⟩) |>.find? (readsAs bits)

/-- The value `mantissa * 2 ^ exponent` written out in full. -/
def exact (mantissa : Nat) (exponent : Int) : Decimal :=
  if 0 ≤ exponent then ⟨mantissa * Nat.pow 2 exponent.toNat, 0⟩
  else ⟨mantissa * Nat.pow 5 (-exponent).toNat, exponent⟩

/-- The shortest decimal that reads back as `mantissa * 2 ^ exponent`, the nearest of those;
the number written out in full if no grid has one. -/
def shortest (tie : Tie) (mantissa : Nat) (exponent : Int) : Decimal :=
  let (num, den) := Binary64.scaled mantissa 1 (-exponent)
  let bits := Binary64.nearest num den
  let k := floorLog10 num den
  ((List.range 17).findSome? fun i : Nat => onGrid tie bits num den (k - i)).getD
    (exact mantissa exponent)

end VocalScore.Decimal
