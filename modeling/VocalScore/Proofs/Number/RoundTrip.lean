import VocalScore.Number.Layout
import VocalScore.Proofs.Number.Digits
import VocalScore.Proofs.Number.Shortest
import VocalScore.Proofs.Text.Scanning

/-!
# Numbers survive their text

`Number.plain` writes a number so that `Number.read` gives the same number back, zeros with
their signs and infinities included; the text of a fixed count of places always reads as some
number. In between stands `IsNumeral`, the grammar of the texts that `inFull` writes.

## Key results

- `isNumeral_inFull`: a decimal in full is a numeral of the decimal without positive exponent
- `read_plain`: the plain text of a number reads back as the number
- `isTextOf_fixed`: a number with a fixed count of places reads as a number
- `IsTextOf.isTextChar`: the characters of both
-/

namespace VocalScore.Number

open NumberStyle (inFull)

/-! ### Numerals -/

/-- A row of digits, or two rows with a point between them, and what it stands for. -/
inductive IsNumeral : List Char → Decimal → Prop where
  /-- Digits without a point. -/
  | whole {s : List Char} (hne : s ≠ []) (hs : s.all Char.isDigit = true) :
    IsNumeral s ⟨natOfDigits s, 0⟩
  /-- Digits on both sides of a point. -/
  | point {s t : List Char} (hne : s ≠ []) (hs : s.all Char.isDigit = true)
    (ht : t.all Char.isDigit = true) :
    IsNumeral (s ++ '.' :: t) ⟨natOfDigits (s ++ t), -(t.length : Int)⟩

/-- Digits are taken to the end of the text. -/
theorem spanDigits_digits {s : List Char} (hs : s.all Char.isDigit = true) :
    spanDigits s = (s, []) := by
  rw [List.all_eq_true] at hs
  rw [spanDigits, List.takeWhile_eq_self_iff.2 hs, List.dropWhile_eq_nil_iff.2 hs]

/-- Digits are taken up to a point. -/
theorem spanDigits_point {s : List Char} (hs : s.all Char.isDigit = true) (t : List Char) :
    spanDigits (s ++ '.' :: t) = (s, '.' :: t) := by
  rw [List.all_eq_true] at hs
  rw [spanDigits, List.takeWhile_append_of_pos hs, List.dropWhile_append_of_pos hs,
    List.takeWhile_cons_of_neg (by decide), List.dropWhile_cons_of_neg (by decide),
    List.append_nil]

/-- A numeral reads as the decimal that it stands for. -/
theorem IsNumeral.readDecimal_eq {s : List Char} {d : Decimal} (h : IsNumeral s d) :
    readDecimal s = some d := by
  cases h with
  | whole hne hs =>
    simp [readDecimal, spanDigits_digits hs, hne, readExponent]
  | point hne hs ht =>
    simp [readDecimal, spanDigits_point hs, spanDigits_digits ht, hne, readExponent]

/-- A numeral starts with a digit. -/
theorem IsNumeral.eq_cons {s : List Char} {d : Decimal} (h : IsNumeral s d) :
    ∃ c r, s = c :: r ∧ c.isDigit = true := by
  have hcons : ∀ {s : List Char}, s ≠ [] → s.all Char.isDigit = true →
      ∃ c r, s = c :: r ∧ c.isDigit = true := by
    intro s hne hs
    obtain ⟨c, r, rfl⟩ := List.exists_cons_of_ne_nil hne
    rw [List.all_cons, Bool.and_eq_true] at hs
    exact ⟨c, r, rfl, hs.1⟩
  -- In both forms digits come first.
  cases h with
  | whole hne hs => exact hcons hne hs
  | @point s t hne hs ht =>
    obtain ⟨c, r, rfl, hc⟩ := hcons hne hs
    exact ⟨c, r ++ '.' :: t, rfl, hc⟩

/-- A digit is no upper-case letter. -/
private theorem toLower_of_isDigit {c : Char} (h : c.isDigit = true) : c.toLower = c := by
  rw [Char.isDigit_iff_toNat] at h
  delta Char.toLower
  rw [dif_neg]
  rintro ⟨hA, -⟩
  have hA : 'A'.toNat ≤ c.toNat := UInt32.le_iff_toNat_le.1 hA
  have h9 : '9'.toNat < 'A'.toNat := by decide
  omega

/-- A text that starts with a digit is no word that starts with something else. -/
private theorem lower_ne_word {c : Char} (hc : c.isDigit = true) (r : List Char) {w : String}
    {a : Char} {q : List Char} (hw : w.toList = a :: q) (ha : a.isDigit = false) :
    String.ofList ((c :: r).map Char.toLower) ≠ w := by
  intro h
  have hlist := congrArg String.toList h
  rw [String.toList_ofList, List.map_cons, toLower_of_isDigit hc, hw] at hlist
  rw [(List.cons.inj hlist).1, ha] at hc
  cases hc

/-- A numeral, with a minus sign or without, reads as its decimal rounded. -/
theorem IsNumeral.read_eq {s : List Char} {d : Decimal} (h : IsNumeral s d) (negative : Bool) :
    read (if negative then '-' :: s else s) = some (d.toFloat negative) := by
  obtain ⟨c, r, rfl, hc⟩ := h.eq_cons
  -- The first digit is no sign, and no word starts with a digit.
  have hspan : spanSign (if negative then '-' :: c :: r else c :: r) = (negative, c :: r) := by
    cases negative with
    | true => rfl
    | false => exact spanSign_of_isDigit hc r
  have hnan : String.ofList ((c :: r).map Char.toLower) ≠ "nan" :=
    lower_ne_word hc r (a := 'n') (q := ['a', 'n']) (by decide) (by decide)
  have hinf : String.ofList ((c :: r).map Char.toLower) ≠ "inf" :=
    lower_ne_word hc r (a := 'i') (q := ['n', 'f']) (by decide) (by decide)
  have hinfinity : String.ofList ((c :: r).map Char.toLower) ≠ "infinity" :=
    lower_ne_word hc r (a := 'i') (q := "nfinity".toList) (by decide) (by decide)
  simp only [read, hspan]
  rw [if_neg hnan, if_neg (not_or.2 ⟨hinf, hinfinity⟩), h.readDecimal_eq, Option.map_some]

/-! ### Decimals in full -/

private theorem natOfDigits_zeros_append (k : Nat) (s : List Char) :
    natOfDigits (List.replicate k '0' ++ s) = natOfDigits s := by
  rw [natOfDigits_append, natOfDigits_zeros, Nat.zero_mul, Nat.zero_add]

private theorem all_zeros (k : Nat) : (List.replicate k '0').all Char.isDigit = true := by
  rw [List.all_replicate]
  split <;> rfl

/-- A decimal in full is a numeral of the decimal without positive exponent. -/
theorem isNumeral_inFull (d : Decimal) : IsNumeral (inFull false d) d.unscaled := by
  have hds := all_digits d.significand
  have hval := natOfDigits_digits d.significand
  have hne := digits_ne_nil d.significand
  generalize hD : Text.digits 10 d.significand = ds at hds hval hne
  simp only [inFull, hD, Bool.false_eq_true, if_false, List.append_nil]
  split
  next he =>
    -- A whole number: zeros take the place of the exponent.
    have hall : (ds ++ List.replicate d.exponent.toNat '0').all Char.isDigit = true := by
      rw [List.all_append, hds, all_zeros]; rfl
    have h := IsNumeral.whole (List.append_ne_nil_of_left_ne_nil hne _) hall
    rwa [natOfDigits_append, natOfDigits_zeros, List.length_replicate, hval, Nat.add_zero,
      ← min_eq_right he] at h
  next he =>
    -- The row is long enough for a digit before the point.
    generalize hplaces : (-d.exponent).toNat = k
    generalize hrow : List.replicate (k + 1 - ds.length) '0' ++ ds = row
    have hlen : k < row.length := by
      rw [← hrow, List.length_append, List.length_replicate]; omega
    have hall : row.all Char.isDigit = true := by
      rw [← hrow, List.all_append, all_zeros, hds]; rfl
    have hvalue : natOfDigits row = d.significand := by
      rw [← hrow, natOfDigits_zeros_append, hval]
    have hsplit := List.take_append_drop (row.length - k) row
    rw [← hsplit, List.all_append, Bool.and_eq_true] at hall
    have hnil : row.take (row.length - k) ≠ [] := by
      intro h0
      have := congrArg List.length h0
      rw [List.length_take, List.length_nil] at this
      omega
    have h := IsNumeral.point hnil hall.1 hall.2
    rw [hsplit, hvalue, List.length_drop] at h
    have hexp : -((row.length - (row.length - k) : Nat) : Int) = min d.exponent 0 := by omega
    have hsig : d.significand = d.significand * Nat.pow 10 d.exponent.toNat := by
      have h0 : d.exponent.toNat = 0 := by omega
      rw [h0]; simp
    rw [hexp, hsig] at h
    exact h

/-! ### Texts of numbers -/

/-- The characters of the text of a number. -/
def isTextChar (c : Char) : Bool := c.isDigit || ['.', '-', 'N', 'a', 'i', 'n', 'f'].contains c

theorem isBlank_of_isTextChar {c : Char} (h : isTextChar c = true) : Text.isBlank c = false := by
  rw [isTextChar, Bool.or_eq_true] at h
  rcases h with h | h
  · exact isBlank_of_isDigit h
  · rw [List.contains_iff_mem] at h
    exact Text.isBlank_of_mem (by decide) h

/-- A numeral is made of the characters of written floats. -/
theorem IsNumeral.isTextChar {s : List Char} {d : Decimal} (h : IsNumeral s d) {c : Char}
    (hc : c ∈ s) : isTextChar c = true := by
  have hdigits : ∀ {s : List Char}, s.all Char.isDigit = true → c ∈ s →
      Number.isTextChar c = true := by
    intro s hs hc
    rw [Number.isTextChar, List.all_eq_true.1 hs c hc, Bool.true_or]
  cases h with
  | whole hne hs => exact hdigits hs hc
  | point hne hs ht =>
    rcases List.mem_append.1 hc with hc | hc
    · exact hdigits hs hc
    · rcases List.mem_cons.1 hc with rfl | hc
      · decide
      · exact hdigits ht hc

/-- Texts of numbers: the word of what is not finite, or a numeral with the sign. -/
inductive IsTextOf (x : Float) : List Char → Float → Prop where
  /-- Not a number. -/
  | nan (h : Binary64.parts x = .nan) : IsTextOf x "NaN".toList x
  /-- Positive infinity. -/
  | infinity (h : Binary64.parts x = .infinite false) : IsTextOf x "inf".toList x
  /-- Negative infinity. -/
  | negativeInfinity (h : Binary64.parts x = .infinite true) : IsTextOf x "-inf".toList x
  /-- A finite number. -/
  | finite {negative : Bool} {m : Nat} {e : Int} {s : List Char} {d : Decimal}
    (h : Binary64.parts x = .finite negative m e) (hs : IsNumeral s d) :
    IsTextOf x (if negative then '-' :: s else s) (d.toFloat negative)

/-- The text of a number reads as the number that it is a text of. -/
theorem IsTextOf.read_eq {x y : Float} {s : List Char} (h : IsTextOf x s y) :
    read s = some y := by
  cases h with
  | nan h => rw [← Binary64.eq_of_parts_nan h]; rfl
  | infinity h => rw [← Binary64.eq_of_parts_infinite h]; rfl
  | negativeInfinity h => rw [← Binary64.eq_of_parts_infinite h]; rfl
  | finite h hs => exact hs.read_eq _

/-- So is any written float. -/
theorem IsTextOf.isTextChar {x y : Float} {s : List Char} (h : IsTextOf x s y) {c : Char}
    (hc : c ∈ s) : isTextChar c = true := by
  cases h with
  | nan h => exact List.all_eq_true.1 (by decide) c hc
  | infinity h => exact List.all_eq_true.1 (by decide) c hc
  | negativeInfinity h => exact List.all_eq_true.1 (by decide) c hc
  | @finite negative m e s d h hs =>
    -- A negative number has a sign in front of its magnitude.
    cases negative with
    | false => exact hs.isTextChar hc
    | true =>
      rcases List.mem_cons.1 hc with rfl | hc
      · decide
      · exact hs.isTextChar hc

private theorem magnitude_plain (d : Decimal) :
    NumberStyle.plain.magnitude d = inFull false d := rfl

/-- The plain text of a number is a text of it that loses nothing. -/
theorem isTextOf_plain (x : Float) : IsTextOf x (plain x) x := by
  unfold plain NumberStyle.render
  cases h : Binary64.parts x with
  | nan => exact .nan h
  | infinite negative =>
    cases negative with
    | false => exact .infinity h
    | true => exact .negativeInfinity h
  | finite negative m e =>
    obtain ⟨hc, hx⟩ := Binary64.eq_of_parts_finite h
    simp only [magnitude_plain]
    -- Whatever decimal is written, its bits are those of the number.
    obtain ⟨d, htext, hbits⟩ : ∃ d : Decimal,
        (if m = 0 then inFull NumberStyle.plain.keepsPoint ⟨0, 0⟩
          else inFull false (Decimal.shortest NumberStyle.plain.tie m e)) = inFull false d ∧
        d.unscaled.toBits = Binary64.bitsOf m e := by
      by_cases hm : m = 0
      · -- A zero has the least exponent, so that its bits are zero but for the sign.
        subst hm
        have he : e = -1074 := hc.full.resolve_left (by decide)
        exact ⟨⟨0, 0⟩, if_pos rfl, by rw [he]; decide⟩
      · exact ⟨_, if_neg hm, Decimal.toBits_shortest _ (Nat.pos_of_ne_zero hm) hc⟩
    have htextOf := IsTextOf.finite h (isNumeral_inFull d)
    rw [Decimal.toFloat, hbits, hx] at htextOf
    rw [htext]
    exact htextOf

/-- A number with a fixed count of places is a text of it. -/
theorem isTextOf_fixed (places : Nat) (x : Float) : ∃ y, IsTextOf x (fixed places x) y := by
  unfold fixed withSign
  cases h : Binary64.parts x with
  | nan => exact ⟨x, .nan h⟩
  | infinite negative =>
    cases negative with
    | false => exact ⟨x, .infinity h⟩
    | true => exact ⟨x, .negativeInfinity h⟩
  | finite negative m e =>
    -- Without places there is no point either.
    by_cases hp : places = 0
    · simp only [if_pos hp]
      exact ⟨_, .finite h (.whole (digits_ne_nil _) (all_digits _))⟩
    · simp only [if_neg hp]
      exact ⟨_, .finite h (isNumeral_inFull _)⟩

/-- A float in the plain style is read back. -/
theorem read_plain (x : Float) : read (plain x) = some x := (isTextOf_plain x).read_eq

/-- The plain text of one third is its sixteen digits. -/
example : plain (Float.ofBits 0x3FD5555555555555) = "0.3333333333333333".toList := by
  decide +kernel

end VocalScore.Number
