import VocalScore.Json.Decode
import VocalScore.Proofs.Number.RoundTrip

/-!
# Written numerals of a JSON text

The numerals that are written have no needless zero in front, and a sign in each exponent. A
reader splits them off in front of anything that could not be a part of them.

## Key results

- `span_spelling`: a well formed numeral splits off
- `isNumeral_decimal` / `isNumeral_render`: whole numbers and finite numbers are written as such
- `whole?_whole`: a whole number within its bounds reads back
-/

namespace VocalScore.Json

namespace Numeral

/-- A numeral as it is written. -/
structure WellFormed (n : Numeral) : Prop where
  whole : n.whole.all Char.isDigit = true
  lead : n.whole = ['0'] ∨ ∃ c r, n.whole = c :: r ∧ c ≠ '0'
  places : n.places.all Char.isDigit = true
  exponent : n.exponent.all Char.isDigit = true
  mark : n.mark = [] ∧ n.exponent = [] ∨ (n.mark = ['e', '+'] ∨ n.mark = ['e', '-']) ∧
    n.exponent ≠ []

/-- A text that cannot go on with a numeral. -/
def Ends (r : List Char) : Prop :=
  ∀ c q, r = c :: q → c.isDigit = false ∧ c ≠ '.' ∧ c ≠ 'e' ∧ c ≠ 'E'

/-! ### Splitting off -/

/-- At least one digit is taken, and no more than the digits. -/
theorem spanDigits1_append {s : List Char} (hne : s ≠ []) (hs : s.all Char.isDigit = true)
    {r : List Char} (hr : ∀ c q, r = c :: q → c.isDigit = false) :
    spanDigits1 (s ++ r) = some (s, r) := by
  have hspan : Number.spanDigits (s ++ r) = (s, r) := by
    rw [List.all_eq_true] at hs
    rw [Number.spanDigits, List.takeWhile_append_of_pos hs, List.dropWhile_append_of_pos hs]
    cases r with
    | nil => simp
    | cons c q =>
      have hc := hr c q rfl
      rw [List.takeWhile_cons_of_neg (by simp [hc]), List.dropWhile_cons_of_neg (by simp [hc]),
        List.append_nil]
  simp [spanDigits1, hspan, hne]

/-- A sign is taken if it is there. -/
theorem spanMinus_append (negative : Bool) {s : List Char} (hs : ∀ c q, s = c :: q → c ≠ '-') :
    spanMinus ((if negative then ['-'] else []) ++ s) = (negative, s) := by
  cases negative with
  | true => simp [spanMinus]
  | false =>
    cases s with
    | nil => rfl
    | cons c q => simp [spanMinus, hs c q rfl]

/-- The digits before the point are taken; only a zero that stands alone may lead them. -/
theorem spanWhole_append {s : List Char} (hs : s.all Char.isDigit = true)
    (hlead : s = ['0'] ∨ ∃ c r, s = c :: r ∧ c ≠ '0') {r : List Char}
    (hr : ∀ c q, r = c :: q → c.isDigit = false) : spanWhole (s ++ r) = some (s, r) := by
  rcases hlead with rfl | ⟨c, q, rfl, hc⟩
  · rfl
  · have hspan := spanDigits1_append (List.cons_ne_nil c q) hs hr
    simpa [spanWhole, hc] using hspan

/-- The digits after the point are taken with the point, if there are any. -/
theorem spanPlaces_append {s : List Char} (hs : s.all Char.isDigit = true) {r : List Char}
    (hr : ∀ c q, r = c :: q → c.isDigit = false ∧ c ≠ '.') :
    spanPlaces ((if s = [] then [] else '.' :: s) ++ r) = some (s, r) := by
  by_cases hne : s = []
  · rw [hne, if_pos rfl, List.nil_append]
    cases r with
    | nil => rfl
    | cons c q => simp [spanPlaces, (hr c q rfl).2]
  · have hspan := spanDigits1_append hne hs fun c q h => (hr c q h).1
    simpa [spanPlaces, hne] using hspan

/-- The mark of an exponent is taken. -/
theorem spanMark_append {n : Numeral} (hn : n.WellFormed) {r : List Char} (hr : Ends r) :
    spanMark (n.mark ++ (n.exponent ++ r)) = (n.mark, n.exponent ++ r) := by
  rcases hn.mark with ⟨hmark, hexponent⟩ | ⟨hmark | hmark, -⟩
  · -- Without an exponent the mark would be the first character after the numeral.
    rw [hmark, hexponent]
    cases r with
    | nil => rfl
    | cons c q =>
      obtain ⟨-, -, he, hE⟩ := hr c q rfl
      simp [spanMark, he, hE]
  · rw [hmark]
    simp [spanMark]
  · rw [hmark]
    simp [spanMark]

/-- A numeral splits off in front of what cannot go on with it. -/
theorem span_spelling {n : Numeral} (hn : n.WellFormed) {r : List Char} (hr : Ends r) :
    span (n.spelling ++ r) = some (n, r) := by
  -- What follows the places, and what follows the digits before the point, is no digit.
  have hplaces : ∀ c q, n.mark ++ (n.exponent ++ r) = c :: q → c.isDigit = false ∧ c ≠ '.' := by
    intro c q h
    rcases hn.mark with ⟨hmark, hexponent⟩ | ⟨hmark | hmark, -⟩
    · rw [hmark, hexponent] at h
      exact ⟨(hr c q h).1, (hr c q h).2.1⟩
    · rw [hmark] at h
      obtain ⟨rfl, -⟩ := List.cons.inj h
      decide
    · rw [hmark] at h
      obtain ⟨rfl, -⟩ := List.cons.inj h
      decide
  have hwhole : ∀ c q, (if n.places = [] then [] else '.' :: n.places) ++
      (n.mark ++ (n.exponent ++ r)) = c :: q → c.isDigit = false := by
    intro c q h
    split at h
    · exact (hplaces c q h).1
    · obtain ⟨rfl, -⟩ := List.cons.inj h
      decide
  -- The digits come first, so a sign is taken only where one was written.
  have hminus : ∀ c q, n.whole ++ ((if n.places = [] then [] else '.' :: n.places) ++
      (n.mark ++ (n.exponent ++ r))) = c :: q → c ≠ '-' := by
    rintro c q h rfl
    have hdigits := hn.whole
    rcases hn.lead with hlead | ⟨d, t, hlead, -⟩
    · rw [hlead] at h
      obtain ⟨h, -⟩ := List.cons.inj h
      exact absurd h (by decide)
    · rw [hlead] at h hdigits
      obtain ⟨rfl, -⟩ := List.cons.inj h
      exact absurd hdigits (by simp [Char.isDigit])
  have hassoc : n.spelling ++ r = (if n.negative then ['-'] else []) ++ (n.whole ++
      ((if n.places = [] then [] else '.' :: n.places) ++ (n.mark ++ (n.exponent ++ r)))) := by
    simp [spelling]
  simp only [span, hassoc, spanMinus_append n.negative hminus, Option.bind_eq_bind,
    spanWhole_append hn.whole hn.lead hwhole, Option.bind_some, spanPlaces_append hn.places hplaces,
    spanMark_append hn hr]
  rcases hn.mark with ⟨hmark, hexponent⟩ | ⟨hmark, hexponent⟩
  · rw [if_pos hmark, hexponent, List.nil_append, ← hexponent]
  · have hne : n.mark ≠ [] := by rcases hmark with hmark | hmark <;> simp [hmark]
    rw [if_neg hne, spanDigits1_append hexponent hn.exponent fun c q h => (hr c q h).1]
    rfl

end Numeral

/-- The spelling of a well formed numeral. -/
def IsNumeral (s : List Char) : Prop := ∃ n : Numeral, n.WellFormed ∧ n.spelling = s

/-! ### Whole numbers -/

open Number (natOfDigits all_digits natOfDigits_digits)

/-- The first digit of a number other than zero is not zero. -/
theorem digits_eq_cons_of_ne_zero {n : Nat} (h : n ≠ 0) :
    ∃ c r, Text.digits 10 n = c :: r ∧ c ≠ '0' := by
  have hdigit : ∀ d < 10, d ≠ 0 → Text.digitChar d ≠ '0' := by decide
  induction n using Nat.strongRecOn with
  | ind n ih =>
    rw [Number.digits_ten]
    split
    next hn => exact ⟨_, [], rfl, hdigit n hn h⟩
    next hn =>
      -- The first digit is that of the tenth part.
      obtain ⟨c, r, hcons, hc⟩ := ih (n / 10) (by omega) (by omega)
      exact ⟨c, r ++ [Text.digitChar (n % 10)], by rw [hcons, List.cons_append], hc⟩

/-- The digits of a number are a zero, or do not start with one. -/
theorem lead_digits (n : Nat) :
    Text.digits 10 n = ['0'] ∨ ∃ c r, Text.digits 10 n = c :: r ∧ c ≠ '0' := by
  by_cases h : n = 0
  · rw [h]
    exact Or.inl (by decide +kernel)
  · exact Or.inr (digits_eq_cons_of_ne_zero h)

/-- The numeral of a whole number. -/
def Numeral.ofInt (n : Int) : Numeral := ⟨decide (n < 0), Text.digits 10 n.natAbs, [], [], []⟩

theorem Numeral.wellFormed_ofInt (n : Int) : (ofInt n).WellFormed where
  whole := all_digits n.natAbs
  lead := lead_digits n.natAbs
  places := rfl
  exponent := rfl
  mark := Or.inl ⟨rfl, rfl⟩

theorem Numeral.spelling_ofInt (n : Int) : (ofInt n).spelling = Text.decimal n := by
  rw [Text.decimal, spelling, ofInt]
  by_cases h : n < 0 <;> simp [h]

/-- The digits of an integer are a numeral. -/
theorem isNumeral_decimal (n : Int) : IsNumeral (Text.decimal n) :=
  ⟨.ofInt n, Numeral.wellFormed_ofInt n, Numeral.spelling_ofInt n⟩

namespace Numeral

/-- A number grows as digits are put after it. -/
theorem le_foldl_digits (n : Nat) (s : List Char) :
    n ≤ s.foldl (fun n c => 10 * n + (c.toNat - 48)) n := by
  induction s generalizing n with
  | nil => exact Nat.le_refl n
  | cons c s ih =>
    have h := ih (10 * n + (c.toNat - 48))
    rw [List.foldl_cons]
    omega

/-- Digits whose value fits are all read. -/
theorem accumulate_eq {n : Nat} {s : List Char}
    (h : s.foldl (fun n c => 10 * n + (c.toNat - 48)) n ≤ maxUInt64) :
    accumulate n s = (s.foldl (fun n c => 10 * n + (c.toNat - 48)) n, []) := by
  induction s generalizing n with
  | nil => rfl
  | cons c s ih =>
    rw [List.foldl_cons] at h ⊢
    have hstep := Nat.le_trans (le_foldl_digits (10 * n + (c.toNat - 48)) s) h
    rw [accumulate, if_pos hstep, ih h]

/-- An integer of 64 bits, signed or unsigned, is the value of its numeral. -/
theorem value?_ofInt {n : Int} (hlo : Int64.minValue.toInt ≤ n) (hhi : n ≤ maxUInt64) :
    (ofInt n).value? = some (.whole n) := by
  have hmax : maxUInt64 = 18446744073709551615 := rfl
  have hmin : Int64.minValue.toInt = -9223372036854775808 := rfl
  rw [hmin] at hlo
  rw [hmax] at hhi
  have hvalue : accumulate 0 (Text.digits 10 n.natAbs) = (n.natAbs, []) := by
    have h := natOfDigits_digits n.natAbs
    have hle : natOfDigits (Text.digits 10 n.natAbs) ≤ maxUInt64 := by omega
    rw [accumulate_eq hle, ← natOfDigits, h]
  simp only [value?, ofInt, hvalue, and_self, if_true]
  -- A negative number has to fit in the signed range, any other in the unsigned one.
  by_cases hneg : n < 0
  · have hbound : n.natAbs ≤ Int64.minValue.toInt.natAbs := by
      rw [hmin]
      omega
    have hint : (-(n.natAbs : Int)) = n := by omega
    rw [decide_eq_true hneg, if_neg (by simp), if_pos ⟨by omega, hbound⟩, hint]
  · have hint : (n.natAbs : Int) = n := by omega
    rw [decide_eq_false hneg, Bool.not_false, if_pos rfl, hint]

end Numeral

/-- An integer of 64 bits, signed or unsigned, is read back. -/
theorem quantity?_whole {n : Int} (hlo : Int64.minValue.toInt ≤ n)
    (hhi : n ≤ Numeral.maxUInt64) : (Json.whole n).quantity? = some (.whole n) := by
  have hspan := Numeral.span_spelling (Numeral.wellFormed_ofInt n) (r := [])
    (fun c q h => nomatch h)
  rw [List.append_nil, Numeral.spelling_ofInt] at hspan
  rw [Json.whole, quantity?, hspan]
  exact Numeral.value?_ofInt hlo hhi

/-- A whole number within its bounds reads back. -/
theorem whole?_whole {lo hi n : Int} (hlo : lo ≤ n) (hhi : n ≤ hi)
    (hmin : Int64.minValue.toInt ≤ n) (hmax : n ≤ Numeral.maxUInt64) :
    (Json.whole n).whole? lo hi = some n := by
  rw [whole?, quantity?_whole hmin hmax]
  exact if_pos ⟨hlo, hhi⟩

/-! ### Finite numbers -/

open NumberStyle (inFull withExponent)

/-- The spelling of a well formed numeral without sign. -/
def IsMagnitude (s : List Char) : Prop :=
  ∃ n : Numeral, n.WellFormed ∧ n.negative = false ∧ n.spelling = s

/-- A magnitude is a numeral with a sign as well as without. -/
theorem IsMagnitude.isNumeral {s : List Char} (h : IsMagnitude s) (negative : Bool) :
    IsNumeral (if negative then '-' :: s else s) := by
  obtain ⟨n, hn, hpositive, rfl⟩ := h
  cases negative with
  | false => exact ⟨n, hn, rfl⟩
  | true =>
    refine ⟨{ n with negative := true }, ⟨hn.whole, hn.lead, hn.places, hn.exponent, hn.mark⟩, ?_⟩
    simp [Numeral.spelling, hpositive]

private theorem all_zeros_digits (k n : Nat) :
    (List.replicate k '0' ++ Text.digits 10 n).all Char.isDigit = true := by
  rw [List.all_append, List.all_replicate, all_digits n]
  split <;> rfl

/-- Zeros are filled in up to the digit before the point, and no further. -/
private theorem lead_padded {n : Nat} (h : n ≠ 0) (k : Nat) {row : List Char}
    (hrow : List.replicate (k + 1 - (Text.digits 10 n).length) '0' ++ Text.digits 10 n = row) :
    row.take (row.length - k) = ['0'] ∨ ∃ c r, row.take (row.length - k) = c :: r ∧ c ≠ '0' := by
  have hlen := congrArg List.length hrow
  rw [List.length_append, List.length_replicate] at hlen
  by_cases hpad : (Text.digits 10 n).length ≤ k
  · -- The only digit in front of the point was filled in.
    obtain ⟨z, hz⟩ : ∃ z, k + 1 - (Text.digits 10 n).length = z + 1 :=
      ⟨k - (Text.digits 10 n).length, by omega⟩
    have hone : row.length - k = 1 := by omega
    left
    rw [hone, ← hrow, hz, List.replicate_succ]
    rfl
  · -- Nothing was filled in, so the row starts as the digits do.
    obtain ⟨c, r, hcons, hc⟩ := digits_eq_cons_of_ne_zero h
    obtain ⟨t, ht⟩ : ∃ t, row.length - k = t + 1 := ⟨row.length - k - 1, by omega⟩
    have hnone : k + 1 - (Text.digits 10 n).length = 0 := by omega
    right
    refine ⟨c, r.take t, ?_, hc⟩
    rw [ht, ← hrow, hnone, hcons]
    rfl

/-- A decimal above zero, or a zero without exponent, is a numeral in full. -/
theorem isMagnitude_inFull {d : Decimal} (h : d.significand ≠ 0 ∨ d.exponent = 0) :
    IsMagnitude (inFull true d) := by
  have hds := all_digits d.significand
  rw [inFull]
  simp only
  split
  next he =>
    -- Zeros take the place of the exponent, and one place is kept.
    refine ⟨⟨false, Text.digits 10 d.significand ++ List.replicate d.exponent.toNat '0', ['0'],
      [], []⟩, ⟨?_, ?_, rfl, rfl, Or.inl ⟨rfl, rfl⟩⟩, rfl, by simp [Numeral.spelling]⟩
    · simp only
      rw [List.all_append, List.all_replicate, hds]
      split <;> rfl
    · rcases h with h | h
      · obtain ⟨c, r, hcons, hc⟩ := digits_eq_cons_of_ne_zero h
        exact Or.inr ⟨c, _, by rw [hcons, List.cons_append], hc⟩
      · simpa [h] using lead_digits d.significand
  next he =>
    have hne : d.significand ≠ 0 := h.resolve_right (by omega)
    generalize hk : (-d.exponent).toNat = k
    generalize hrow : List.replicate (k + 1 - (Text.digits 10 d.significand).length) '0' ++
      Text.digits 10 d.significand = row
    have hall : row.all Char.isDigit = true := hrow ▸ all_zeros_digits _ _
    rw [← List.take_append_drop (row.length - k) row, List.all_append, Bool.and_eq_true] at hall
    have hlen : k < row.length := by
      rw [← hrow, List.length_append, List.length_replicate]
      omega
    -- The row was filled up to one digit more than there are places.
    have hplaces : row.drop (row.length - k) ≠ [] := by
      intro hnil
      have hzero := congrArg List.length hnil
      rw [List.length_drop, List.length_nil] at hzero
      omega
    exact ⟨⟨false, row.take (row.length - k), row.drop (row.length - k), [], []⟩,
      ⟨hall.1, lead_padded hne k hrow, hall.2, rfl, Or.inl ⟨rfl, rfl⟩⟩, rfl,
      by simp [Numeral.spelling, hplaces]⟩

/-- Digits with an exponent are a magnitude. -/
theorem isMagnitude_withExponent {n : Nat} (h : n ≠ 0) (e : Int) :
    IsMagnitude (withExponent (Text.digits 10 n) true e) := by
  obtain ⟨c, r, hcons, hc⟩ := digits_eq_cons_of_ne_zero h
  have hds := all_digits n
  rw [hcons, List.all_cons, Bool.and_eq_true] at hds
  rw [hcons, withExponent]
  -- A positive exponent is written with its sign, so there is one in each case.
  refine ⟨⟨false, [c], r, ['e', if 0 ≤ e then '+' else '-'], Text.digits 10 e.natAbs⟩,
    ⟨by simp [hds.1], Or.inr ⟨c, [], rfl, hc⟩, hds.2, all_digits _, Or.inr ⟨?_, ?_⟩⟩, rfl, ?_⟩
  · simp only
    split <;> simp
  · exact Number.digits_ne_nil _
  · by_cases he : 0 ≤ e
    · have hneg : ¬e < 0 := by omega
      cases r <;> simp [Numeral.spelling, Text.decimal, he, hneg]
    · have hneg : e < 0 := by omega
      cases r <;> simp [Numeral.spelling, Text.decimal, he, hneg]

/-- The shortest decimal of a number other than zero is not zero. -/
theorem significand_shortest_ne_zero (tie : Tie) {m : Nat} {e : Int} (hm : 0 < m)
    (hc : Binary64.Canonical m e) : (Decimal.shortest tie m e).significand ≠ 0 := by
  intro h
  have hbits := Decimal.toBits_shortest tie hm hc
  rw [Decimal.toBits, if_pos (by simp [Decimal.unscaled, h]), Binary64.bitsOf] at hbits
  omega

/-- A finite float has a sign, a mantissa and an exponent. -/
theorem parts_of_isFinite {x : Float} (h : x.isFinite = true) :
    ∃ negative m e, Binary64.parts x = .finite negative m e := by
  cases hx : Binary64.parts x with
  | finite negative m e => exact ⟨negative, m, e, rfl⟩
  | nan =>
    rw [← Binary64.eq_of_parts_nan hx] at h
    exact absurd h (by decide +kernel)
  | infinite negative =>
    rw [← Binary64.eq_of_parts_infinite hx] at h
    cases negative <;> exact absurd h (by decide +kernel)

/-- A finite number is written as a numeral. -/
theorem isNumeral_render {x : Float} (h : x.isFinite = true) :
    IsNumeral (NumberStyle.json.render x) := by
  obtain ⟨negative, m, e, hparts⟩ := parts_of_isFinite h
  have hc := (Binary64.eq_of_parts_finite hparts).1
  rw [NumberStyle.render, hparts]
  refine IsMagnitude.isNumeral ?_ negative
  by_cases hm : m = 0
  · rw [if_pos hm]
    exact isMagnitude_inFull (Or.inr rfl)
  · have hne := significand_shortest_ne_zero NumberStyle.json.tie (Nat.pos_of_ne_zero hm) hc
    rw [if_neg hm, NumberStyle.magnitude]
    -- The shortest digits are written in full or with an exponent, by their size.
    split
    · exact isMagnitude_inFull (Or.inl hne)
    · exact isMagnitude_withExponent hne _

end VocalScore.Json
