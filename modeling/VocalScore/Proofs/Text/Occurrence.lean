import Mathlib.Data.List.Basic
import Mathlib.Data.Nat.Find
import VocalScore.Text.Basic

/-!
# Words in a text

A word without line ends occurs in a text exactly if it occurs in one of its lines.

## Key results

- `occurs_iff_infix`: what `occurs` tests
- `prefix_iff_of_lines`: a text starts with the words that its first line starts with
- `infix_iff_exists_line`: the words of a text are those of its lines
- `exists_firstOccurrence`: a word that occurs in a text occurs there for the first time
-/

namespace VocalScore.Text

/-- A word occurs in a text that it is an infix of. -/
theorem occurs_iff_infix {w s : List Char} : occurs w s = true ↔ w <:+: s := by
  induction s with
  | nil => rw [occurs, List.isEmpty_iff, List.infix_nil]
  | cons c r ih =>
    rw [occurs, Bool.or_eq_true, ih, List.isPrefixOf_iff_prefix, List.infix_cons_iff]

/-- What stands before and after the first occurrence of a word. -/
structure FirstOccurrence (w s before after : List Char) : Prop where
  eq : s = before ++ w ++ after
  first : ∀ b a, s = b ++ w ++ a → before.length ≤ b.length

/-- A word that occurs has a first occurrence. -/
theorem exists_firstOccurrence {w s : List Char} (h : w <:+: s) :
    ∃ before after, FirstOccurrence w s before after := by
  classical
  -- The least length of what stands before an occurrence.
  have hsome : ∃ k b a, s = b ++ w ++ a ∧ b.length = k := by
    obtain ⟨b, a, hba⟩ := h
    exact ⟨b.length, b, a, hba.symm, rfl⟩
  obtain ⟨before, after, heq, hlength⟩ := Nat.find_spec hsome
  refine ⟨before, after, heq, fun b a hba => ?_⟩
  rw [hlength]
  exact Nat.find_min' hsome ⟨b, a, hba, rfl⟩

/-- An occurrence is the first one if the word starts at no earlier place. -/
theorem firstOccurrence_iff {w s before after : List Char} :
    FirstOccurrence w s before after ↔
      s = before ++ w ++ after ∧ ∀ k < before.length, ¬w <+: s.drop k := by
  constructor
  · -- An occurrence at `k` has the first `k` characters before it.
    rintro ⟨heq, hfirst⟩
    refine ⟨heq, fun k hk hprefix => ?_⟩
    obtain ⟨a, ha⟩ := hprefix
    have hle := hfirst (s.take k) a (by rw [List.append_assoc, ha, List.take_append_drop])
    have htake := List.length_take_le k s
    omega
  · rintro ⟨heq, hfirst⟩
    refine ⟨heq, fun b a hba => ?_⟩
    by_contra hlt
    apply hfirst b.length (Nat.lt_of_not_le hlt)
    rw [hba, List.append_assoc, List.drop_left]
    exact List.prefix_append w a

instance (w s before after : List Char) : Decidable (FirstOccurrence w s before after) :=
  decidable_of_iff _ firstOccurrence_iff.symm

/-- A word that does not have a character starts no text that starts with it. -/
theorem not_prefix_cons {w : List Char} {c : Char} (hne : w ≠ []) (hc : c ∉ w) (s : List Char) :
    ¬w <+: c :: s := by
  obtain ⟨d, v, rfl⟩ := List.exists_cons_of_ne_nil hne
  intro h
  rw [(List.cons_prefix_cons.1 h).1] at hc
  exact hc List.mem_cons_self

/-- A text starts with a word without line ends exactly if its first line does. -/
theorem prefix_iff_of_lines {w s l : List Char} {ls : List (List Char)} (hn : '\n' ∉ w)
    (hr : '\r' ∉ w) (h : lines s = l :: ls) : w <+: s ↔ w <+: l := by
  -- The word shrinks with the text, so the induction is for every word and every first line.
  induction s generalizing w l ls with
  | nil => cases h
  | cons c r ih =>
    by_cases hw : w = []
    · rw [hw]
      exact iff_of_true List.nil_prefix List.nil_prefix
    rw [lines] at h
    split at h
    next hc =>
      -- The first line is empty.
      obtain ⟨rfl, -⟩ := List.cons.inj h
      subst hc
      rw [List.prefix_nil]
      exact iff_of_false (not_prefix_cons hw hn r) hw
    next hc =>
      split at h
      next hend =>
        -- Of the two characters that end the first line, the word has neither.
        obtain ⟨rfl, hhead⟩ := hend
        obtain ⟨q, rfl⟩ := List.head?_eq_some_iff.1 hhead
        rw [← ih hn hr h]
        exact iff_of_false (not_prefix_cons hw hr _) (not_prefix_cons hw hn q)
      · split at h
        next hnil =>
          obtain ⟨rfl, -⟩ := List.cons.inj h
          have hr : r = [] := by
            by_contra hne
            exact lines_ne_nil hne hnil
          rw [hr]
        next k ks hks =>
          obtain ⟨rfl, -⟩ := List.cons.inj h
          obtain ⟨d, v, rfl⟩ := List.exists_cons_of_ne_nil hw
          rw [List.cons_prefix_cons, List.cons_prefix_cons,
            ih (fun hv => hn (List.mem_cons_of_mem d hv)) (fun hv => hr (List.mem_cons_of_mem d hv))
              hks]

/-- A word without line ends occurs in a text exactly if it occurs in one of its lines. -/
theorem infix_iff_exists_line {w s : List Char} (hne : w ≠ []) (hn : '\n' ∉ w) (hr : '\r' ∉ w) :
    w <:+: s ↔ ∃ l ∈ lines s, w <:+: l := by
  induction s with
  | nil =>
    rw [List.infix_nil]
    exact iff_of_false hne fun ⟨l, hl, _⟩ => List.not_mem_nil hl
  | cons c r ih =>
    rw [List.infix_cons_iff, ih]
    by_cases hc : c = '\n'
    · subst hc
      rw [lines_newline, List.exists_mem_cons_iff, List.infix_nil]
      exact or_congr_left (iff_of_false (not_prefix_cons hne hn r) hne)
    · by_cases hend : c = '\r' ∧ r.head? = some '\n'
      · rw [lines, if_neg hc, if_pos hend, hend.1, or_iff_right (not_prefix_cons hne hr r)]
      · -- The character belongs to the first line.
        cases hl : lines r with
        | nil =>
          have hlines : lines (c :: r) = [[c]] := by rw [lines, if_neg hc, if_neg hend, hl]
          rw [hlines, prefix_iff_of_lines hn hr hlines, List.exists_mem_cons_iff,
            List.infix_cons_iff, List.infix_nil]
          simp only [hne, or_false]
        | cons k ks =>
          have hlines : lines (c :: r) = (c :: k) :: ks := by
            rw [lines, if_neg hc, if_neg hend, hl]
          rw [hlines, prefix_iff_of_lines hn hr hlines, List.exists_mem_cons_iff,
            List.exists_mem_cons_iff, List.infix_cons_iff, or_assoc]

end VocalScore.Text
