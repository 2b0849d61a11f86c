import Mathlib.Tactic.Ring
import VocalScore.Number.Decimal
import VocalScore.Text.Quoted

/-!
# Rows of digits

`Text.digits` writes a whole number and `Number.natOfDigits` reads a row of digits.

## Key results

- `natOfDigits_digits`: the digits of a number read back as the number
- `natOfDigits_append`: the value of a row in two parts
- `readInt_eq_some_iff` / `readNat_eq_some_iff`: which texts are read as whole numbers
- `readNat_digits` / `isWhole_decimal`: whole numbers are written as texts that are read back
-/

namespace VocalScore.Number

open Text (digits digitChar decimal)

/-! ### Writing digits -/

/-- The recursion of `digits` in base ten. -/
theorem digits_ten (n : Nat) :
    digits 10 n = if n < 10 then [digitChar n] else digits 10 (n / 10) ++ [digitChar (n % 10)] := by
  rw [digits]
  simp

/-- A digit is written as a digit, and its character keeps its value. -/
theorem isDigit_digitChar :
    ∀ d < 10, (digitChar d).isDigit = true ∧ (digitChar d).toNat - 48 = d := by
  decide

theorem digits_ne_nil (n : Nat) : digits 10 n ≠ [] := by
  rw [digits_ten]
  split <;> simp

theorem all_digits (n : Nat) : (digits 10 n).all Char.isDigit = true := by
  -- Strong induction follows `digits`, which goes on with a tenth of the number.
  induction n using Nat.strongRecOn with
  | ind n ih =>
    rw [digits_ten]
    split
    next hn => rw [List.all_cons, (isDigit_digitChar n hn).1]; rfl
    next hn =>
      rw [List.all_append, ih (n / 10) (by omega), List.all_cons,
        (isDigit_digitChar (n % 10) (by omega)).1]
      rfl

/-- No digit is white space. -/
theorem isBlank_of_isDigit {c : Char} (h : c.isDigit = true) : Text.isBlank c = false := by
  rw [Char.isDigit_iff_toNat] at h
  have h0 : '0'.toNat = 48 := rfl
  have h9 : '9'.toNat = 57 := rfl
  simp only [Text.isBlank, Bool.or_eq_false_iff, Bool.and_eq_false_iff, beq_eq_false_iff_ne,
    decide_eq_false_iff_not]
  omega

theorem isBlank_of_mem_digits {n : Nat} {c : Char} (h : c ∈ digits 10 n) :
    Text.isBlank c = false :=
  isBlank_of_isDigit (List.all_eq_true.1 (all_digits n) c h)

/-! ### Reading digits -/

/-- Digits that were read before move up one place for each digit that follows. -/
private theorem foldl_digits (n : Nat) (s : List Char) :
    s.foldl (fun n c => 10 * n + (c.toNat - 48)) n = n * 10 ^ s.length + natOfDigits s := by
  induction s generalizing n with
  | nil => simp [natOfDigits]
  | cons c s ih =>
    rw [natOfDigits, List.foldl_cons, List.foldl_cons, ih, ih (10 * 0 + (c.toNat - 48)),
      List.length_cons, Nat.pow_succ]
    ring

/-- The first part of a row counts by the length of the second. -/
theorem natOfDigits_append (s t : List Char) :
    natOfDigits (s ++ t) = natOfDigits s * 10 ^ t.length + natOfDigits t := by
  rw [natOfDigits, List.foldl_append, foldl_digits]
  rfl

theorem natOfDigits_zeros (k : Nat) : natOfDigits (List.replicate k '0') = 0 := by
  induction k with
  | zero => rfl
  | succ k ih => rw [List.replicate_succ', natOfDigits_append, ih]; rfl

/-- The digits of a number stand for it. -/
theorem natOfDigits_digits (n : Nat) : natOfDigits (digits 10 n) = n := by
  induction n using Nat.strongRecOn with
  | ind n ih =>
    rw [digits_ten]
    split
    next hn => simpa [natOfDigits] using (isDigit_digitChar n hn).2
    next hn =>
      -- The last digit is the remainder, and the others are the digits of the quotient.
      have hlast : natOfDigits [digitChar (n % 10)] = n % 10 := by
        simpa [natOfDigits] using (isDigit_digitChar (n % 10) (by omega)).2
      rw [natOfDigits_append, ih (n / 10) (by omega), hlast, List.length_singleton]
      omega

/-! ### Whole numbers -/

/-- A text that starts with neither sign has none. -/
theorem spanSign_of_ne {c : Char} (hminus : c ≠ '-') (hplus : c ≠ '+') (s : List Char) :
    spanSign (c :: s) = (false, c :: s) := by
  rw [spanSign]
  · rintro r ⟨⟩
    exact hminus rfl
  · rintro r ⟨⟩
    exact hplus rfl

/-- A text that starts with a digit has no sign. -/
theorem spanSign_of_isDigit {c : Char} (h : c.isDigit = true) (s : List Char) :
    spanSign (c :: s) = (false, c :: s) := by
  apply spanSign_of_ne
  · rintro rfl
    cases h
  · rintro rfl
    cases h

/-- A text starts with a minus sign, which is split off, or with a plus sign, which is dropped, or
else it is left as it stands. -/
theorem spanSign_cases (s : List Char) :
    (∃ r, s = '-' :: r ∧ spanSign s = (true, r)) ∨ (∃ r, s = '+' :: r ∧ spanSign s = (false, r)) ∨
      spanSign s = (false, s) := by
  unfold spanSign
  split
  next r => exact Or.inl ⟨r, rfl, rfl⟩
  next r => exact Or.inr (Or.inl ⟨r, rfl, rfl⟩)
  · exact Or.inr (Or.inr rfl)

/-- A row of digits. -/
structure IsDigits (ds : List Char) : Prop where
  ne_nil : ds ≠ []
  all_isDigit : ds.all Char.isDigit = true

/-- A whole number as it may be written: digits, with or without a sign before them. -/
inductive IsWhole : List Char → Int → Prop
  | unsigned {ds : List Char} (h : IsDigits ds) : IsWhole ds (natOfDigits ds)
  | plus {ds : List Char} (h : IsDigits ds) : IsWhole ('+' :: ds) (natOfDigits ds)
  | minus {ds : List Char} (h : IsDigits ds) : IsWhole ('-' :: ds) (-natOfDigits ds)

theorem IsWhole.ne_nil {s : List Char} {n : Int} (h : IsWhole s n) : s ≠ [] := by
  cases h with
  | unsigned h => exact h.ne_nil
  | plus h => exact List.cons_ne_nil _ _
  | minus h => exact List.cons_ne_nil _ _

/-- A text is read as the whole number that it is, if that is within the bounds. -/
theorem readInt_eq_some_iff {lo hi n : Int} {s : List Char} :
    readInt lo hi s = some n ↔ IsWhole s n ∧ lo ≤ n ∧ n ≤ hi := by
  constructor
  · intro h
    rcases spanSign_cases s with ⟨r, rfl, hspan⟩ | ⟨r, rfl, hspan⟩ | hspan
    · rw [readInt, hspan, Option.ite_none_right_eq_some, Option.some.injEq] at h
      obtain ⟨⟨hne, hall, hlo, hhi⟩, rfl⟩ := h
      exact ⟨.minus ⟨hne, hall⟩, hlo, hhi⟩
    · rw [readInt, hspan, Option.ite_none_right_eq_some, Option.some.injEq] at h
      obtain ⟨⟨hne, hall, hlo, hhi⟩, rfl⟩ := h
      exact ⟨.plus ⟨hne, hall⟩, hlo, hhi⟩
    · rw [readInt, hspan, Option.ite_none_right_eq_some, Option.some.injEq] at h
      obtain ⟨⟨hne, hall, hlo, hhi⟩, rfl⟩ := h
      exact ⟨.unsigned ⟨hne, hall⟩, hlo, hhi⟩
  · rintro ⟨h, hlo, hhi⟩
    cases h with
    -- Without a sign the first character has to be seen to be a digit.
    | unsigned h =>
      obtain ⟨c, r, rfl⟩ := List.exists_cons_of_ne_nil h.ne_nil
      have hc := h.all_isDigit
      rw [List.all_cons, Bool.and_eq_true] at hc
      rw [readInt, spanSign_of_isDigit hc.1]
      exact if_pos ⟨h.ne_nil, h.all_isDigit, hlo, hhi⟩
    | plus h => exact if_pos ⟨h.ne_nil, h.all_isDigit, hlo, hhi⟩
    | minus h => exact if_pos ⟨h.ne_nil, h.all_isDigit, hlo, hhi⟩

/-- Bounds from zero on are those of a natural number. -/
private theorem ite_natCast (bound : Nat) (ds : List Char) :
    (if ds ≠ [] ∧ ds.all Char.isDigit ∧ 0 ≤ (natOfDigits ds : Int) ∧ (natOfDigits ds : Int) ≤ bound
      then some (natOfDigits ds : Int) else none) =
    (if ds ≠ [] ∧ ds.all Char.isDigit ∧ natOfDigits ds ≤ bound then some (natOfDigits ds)
      else none).map Nat.cast := by
  simp only [Int.natCast_nonneg, Int.ofNat_le, true_and]
  split <;> rfl

/-- Without a minus sign a number from zero on is read as any whole number. -/
theorem readInt_eq_map_readNat (bound : Nat) {s : List Char} (h : s.head? ≠ some '-') :
    readInt 0 bound s = (readNat bound s).map Nat.cast := by
  cases s with
  | nil => rfl
  | cons c r =>
    -- `readNat` takes a plus sign itself, `readInt` leaves it to `spanSign`.
    by_cases hplus : c = '+'
    · subst hplus
      exact ite_natCast bound r
    · have hminus : c ≠ '-' := by
        rintro rfl
        exact h rfl
      rw [readInt, spanSign_of_ne hminus hplus, readNat]
      · exact ite_natCast bound (c :: r)
      · rintro r' ⟨⟩
        exact hplus rfl

/-- A natural number has no minus sign. -/
theorem readNat_minus (bound : Nat) (r : List Char) : readNat bound ('-' :: r) = none := by
  rw [readNat]
  · exact if_neg fun h => Bool.false_ne_true h.2.1
  · rintro r' ⟨⟩

/-- A text is read as a number from zero on if it is a whole number without a minus sign. -/
theorem readNat_eq_some_iff {bound n : Nat} {s : List Char} :
    readNat bound s = some n ↔ IsWhole s n ∧ s.head? ≠ some '-' ∧ n ≤ bound := by
  by_cases hminus : s.head? = some '-'
  · obtain ⟨r, rfl⟩ := List.head?_eq_some_iff.1 hminus
    rw [readNat_minus]
    exact iff_of_false nofun fun h => h.2.1 hminus
  · -- Without a minus sign a natural number is an integer from zero on.
    have hread : readNat bound s = some n ↔ readInt 0 bound s = some (n : Int) := by
      rw [readInt_eq_map_readNat bound hminus, Option.map_eq_some_iff]
      simp
    rw [hread, readInt_eq_some_iff, Int.ofNat_le]
    simp [hminus]

/-- An integer is written with digits and a minus sign. -/
theorem mem_decimal {n : Int} {c : Char} (h : c ∈ decimal n) : c = '-' ∨ c.isDigit = true := by
  have hall := all_digits n.natAbs
  rw [List.all_eq_true] at hall
  rw [decimal] at h
  split at h
  · rcases List.mem_cons.1 h with rfl | h
    · exact Or.inl rfl
    · exact Or.inr (hall c h)
  · exact Or.inr (hall c h)

theorem isDigits_digits (n : Nat) : IsDigits (digits 10 n) := ⟨digits_ne_nil n, all_digits n⟩

/-- The digits of a number within the bound are read back. -/
theorem readNat_digits {bound n : Nat} (h : n ≤ bound) : readNat bound (digits 10 n) = some n := by
  have hwhole := IsWhole.unsigned (isDigits_digits n)
  rw [natOfDigits_digits] at hwhole
  refine readNat_eq_some_iff.2 ⟨hwhole, fun hhead => ?_, h⟩
  -- A minus sign is no digit.
  cases List.all_eq_true.1 (all_digits n) _ (List.mem_of_mem_head? hhead)

/-- What is written for a whole number is one. -/
theorem isWhole_decimal (n : Int) : IsWhole (decimal n) n := by
  have hds := isDigits_digits n.natAbs
  have hval := natOfDigits_digits n.natAbs
  rw [decimal]
  split
  next hneg =>
    have hwhole := IsWhole.minus hds
    have hn : -(n.natAbs : Int) = n := by omega
    rwa [hval, hn] at hwhole
  next hneg =>
    have hwhole := IsWhole.unsigned hds
    have hn : (n.natAbs : Int) = n := by omega
    rwa [hval, hn] at hwhole

end VocalScore.Number
