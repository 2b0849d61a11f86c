import VocalScore.Proofs.Number.Digits
import VocalScore.Proofs.Text.Scanning

/-!
# Numbers have no white space

Nothing may stand around a number that is read, and nothing blank within it. A text that reads as
a number is therefore its own trimmed text and stands on one line.

## Key results

- `isBlank_of_read`: no character of a text that reads as a number is blank
-/

namespace VocalScore.Number

open Text (isBlank)

/-- A character of a text is after the sign or is the sign. -/
theorem mem_spanSign {s : List Char} {c : Char} (h : c ∈ s) :
    c ∈ (spanSign s).2 ∨ c ∈ ['-', '+'] := by
  unfold spanSign
  split
  · rcases List.mem_cons.1 h with rfl | h
    · exact Or.inr (by decide)
    · exact Or.inl h
  · rcases List.mem_cons.1 h with rfl | h
    · exact Or.inr (by decide)
    · exact Or.inl h
  · exact Or.inl h

/-- A sign is visible, so only what it is split from can be blank. -/
theorem isBlank_of_spanSign {s : List Char} (h : ∀ c ∈ (spanSign s).2, isBlank c = false) :
    ∀ c ∈ s, isBlank c = false := by
  intro c hc
  rcases mem_spanSign hc with hc | hc
  · exact h c hc
  · exact Text.isBlank_of_mem (by decide) hc

theorem isBlank_of_all_isDigit {s : List Char} (h : s.all Char.isDigit = true) :
    ∀ c ∈ s, isBlank c = false :=
  fun c hc => isBlank_of_isDigit (List.all_eq_true.1 h c hc)

/-- What is read as an exponent has no white space in it. -/
theorem isBlank_of_readExponent {s : List Char} {e : Int} (h : readExponent s = some e) :
    ∀ c ∈ s, isBlank c = false := by
  cases s with
  | nil => exact fun c hc => absurd hc List.not_mem_nil
  | cons c r =>
    rw [readExponent] at h
    split at h
    next hc =>
      simp only at h
      split at h
      next hdigits =>
        -- The letter, the sign or a digit.
        intro d hd
        rcases List.mem_cons.1 hd with rfl | hd
        · rcases hc with rfl | rfl <;> decide
        · exact isBlank_of_spanSign (isBlank_of_all_isDigit hdigits.2) d hd
      next => cases h
    next => cases h

/-- White space can only be after the digits. -/
theorem isBlank_of_spanDigits {s : List Char} (h : ∀ c ∈ (spanDigits s).2, isBlank c = false) :
    ∀ c ∈ s, isBlank c = false := by
  intro c hc
  rw [← spanDigits_append s] at hc
  rcases List.mem_append.1 hc with hc | hc
  · exact isBlank_of_isDigit (List.mem_takeWhile_imp hc)
  · exact h c hc

/-- What is read as a decimal number has no white space in it. -/
theorem isBlank_of_readDecimal {s : List Char} {d : Decimal} (h : readDecimal s = some d) :
    ∀ c ∈ s, isBlank c = false := by
  apply isBlank_of_spanDigits
  simp only [readDecimal] at h
  -- What follows the digits is an exponent, or a point with digits and an exponent after it.
  split at h
  next q hq =>
    obtain ⟨-, h⟩ := (Option.ite_none_left_eq_some).1 h
    obtain ⟨e, he, -⟩ := Option.map_eq_some_iff.1 h
    rw [hq]
    intro c hc
    rcases List.mem_cons.1 hc with rfl | hc
    · decide
    · exact isBlank_of_spanDigits (isBlank_of_readExponent he) c hc
  next =>
    obtain ⟨-, h⟩ := (Option.ite_none_left_eq_some).1 h
    obtain ⟨e, he, -⟩ := Option.map_eq_some_iff.1 h
    exact isBlank_of_readExponent he

/-- A text that reads as a number has no white space. -/
theorem isBlank_of_read {s : List Char} {x : Float} (h : read s = some x) :
    ∀ c ∈ s, isBlank c = false := by
  apply isBlank_of_spanSign
  simp only [read] at h
  split at h
  -- The words are found in any case, so their characters are seen through `toLower`.
  next hnan => exact Text.isBlank_of_lower hnan (by decide)
  next =>
    split at h
    next hinf =>
      rcases hinf with hinf | hinf
      · exact Text.isBlank_of_lower hinf (by decide)
      · exact Text.isBlank_of_lower hinf (by decide)
    next =>
      obtain ⟨d, hd, -⟩ := Option.map_eq_some_iff.1 h
      exact isBlank_of_readDecimal hd

end VocalScore.Number
