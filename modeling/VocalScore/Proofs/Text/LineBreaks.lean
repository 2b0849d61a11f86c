import VocalScore.Proofs.Text.Scanning

/-!
# Line breaks

A text that ends in a newline is made of lines, each with its newline. This is the view of a writer;
a reader drops the newlines, and with each of them a carriage return that may stand before it.

## Key results

- `reverseLines_flatMap`: lines that were written, in reverse order
- `append_inj_of_newline`: texts that end in newlines, as many in one as in the other, are told
  apart from what follows
- `GainsReturns.lines_eq`: carriage returns before newlines do not change the lines
-/

namespace VocalScore.Text

/-! ### Lines with their newlines -/

/-- A text that ends in a newline with its lines in reverse order. -/
def reverseLines (text : List Char) : List Char :=
  (splitOn '\n' text).dropLast.reverse.flatMap (· ++ ['\n'])

/-- Lines that were written are split again, with an empty text after the last newline. -/
theorem splitOn_newline_flatMap {ls : List (List Char)} (h : ∀ l ∈ ls, '\n' ∉ l) :
    splitOn '\n' (ls.flatMap (· ++ ['\n'])) = ls ++ [[]] := by
  induction ls with
  | nil => rfl
  | cons l ls ih =>
    rw [List.flatMap_cons, List.append_assoc, List.singleton_append,
      splitOn_append (h l List.mem_cons_self), ih fun k hk => h k (List.mem_cons_of_mem l hk),
      List.cons_append]

/-- Lines that were written are reversed as lines. -/
theorem reverseLines_flatMap {ls : List (List Char)} (h : ∀ l ∈ ls, '\n' ∉ l) :
    reverseLines (ls.flatMap (· ++ ['\n'])) = ls.reverse.flatMap (· ++ ['\n']) := by
  rw [reverseLines, splitOn_newline_flatMap h, List.dropLast_concat]

/-- A text that ends in a newline is no proper start of one that has as many newlines. -/
theorem eq_nil_of_newline {s t : List Char} (hlast : (s ++ t).getLast? = some '\n')
    (hcount : s.count '\n' = (s ++ t).count '\n') : t = [] := by
  rw [List.count_append] at hcount
  -- All newlines stand in the start, so the text cannot end in one of what follows it.
  have hnone : '\n' ∉ t := List.count_eq_zero.1 (by omega)
  by_contra hne
  rw [List.getLast?_append_of_ne_nil s hne] at hlast
  exact hnone (List.mem_of_getLast? hlast)

/-- Texts that end in newlines, as many in one as in the other, are told apart from what
follows. -/
theorem append_inj_of_newline {s s' t t' : List Char} (heq : s ++ t = s' ++ t')
    (hlast : s.getLast? = some '\n') (hlast' : s'.getLast? = some '\n')
    (hcount : s.count '\n' = s'.count '\n') : s = s' ∧ t = t' := by
  -- One of the two is a start of the other.
  rcases List.append_eq_append_iff.1 heq with ⟨r, hs', ht⟩ | ⟨r, hs, ht'⟩
  · subst hs' ht
    rw [eq_nil_of_newline hlast' hcount, List.append_nil]
    exact ⟨rfl, rfl⟩
  · subst hs ht'
    rw [eq_nil_of_newline hlast hcount.symm, List.append_nil]
    exact ⟨rfl, rfl⟩

/-! ### Carriage returns -/

/-- A text with a carriage return before each newline. -/
def withReturns (text : List Char) : List Char :=
  text.flatMap fun c => if c = '\n' then ['\r', '\n'] else [c]

/-- A text with carriage returns before some of the newlines of another, and otherwise the same. -/
inductive GainsReturns : List Char → List Char → Prop
  | nil : GainsReturns [] []
  | keep (c : Char) {s t : List Char} (h : GainsReturns s t) : GainsReturns (c :: s) (c :: t)
  | put {s t : List Char} (h : GainsReturns s t) : GainsReturns ('\n' :: s) ('\r' :: '\n' :: t)

/-- A text may gain a carriage return before each of its newlines. -/
theorem gainsReturns_withReturns (s : List Char) : GainsReturns s (withReturns s) := by
  induction s with
  | nil => exact .nil
  | cons c s ih =>
    rw [withReturns, List.flatMap_cons]
    -- Every newline gains a return; all other characters are kept.
    by_cases hc : c = '\n'
    · rw [if_pos hc, hc]
      exact .put ih
    · rw [if_neg hc]
      exact .keep c ih

/-- A carriage return goes with the newline after it, so there are the same lines. -/
theorem GainsReturns.lines_eq {s t : List Char} (h : GainsReturns s t) (hs : '\r' ∉ s) :
    lines t = lines s := by
  induction h with
  | nil => rfl
  | keep c h ih =>
    rw [List.mem_cons, not_or] at hs
    -- The character is no carriage return, so what follows it does not matter.
    have hr : ∀ r : List Char, ¬(c = '\r' ∧ r.head? = some '\n') := fun _ hc => hs.1 hc.1.symm
    rw [lines, lines, if_neg (hr _), if_neg (hr _), ih hs.2]
  | put h ih =>
    rw [lines, if_neg (by decide), if_pos ⟨rfl, rfl⟩, lines_newline, lines_newline,
      ih fun hmem => hs (List.mem_cons_of_mem _ hmem)]

/-- A mark in front of a text has no newline, so dropping it leaves what is gained. -/
theorem GainsReturns.dropMark {s t : List Char} (h : GainsReturns s t) :
    GainsReturns (dropMark s) (dropMark t) := by
  cases h with
  | nil => exact .nil
  | keep c h =>
    -- The two have the same first character, which is the mark in both or in neither.
    rw [Text.dropMark, Text.dropMark]
    split
    · exact h
    · exact .keep c h
  | put h => exact .put h

end VocalScore.Text
