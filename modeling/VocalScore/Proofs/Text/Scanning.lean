import Mathlib.Data.List.DropRight
import VocalScore.Text.Basic

/-!
# Trimming, lines and fields

What the scanners of `VocalScore.Text` do to texts that were put together from parts, and what
their results cannot contain.

## Key results

- `trim_trim`: trimming twice is trimming once
- `trim_blank_append` / `trim_append_blank`: white space around a text does not count
- `trim_append_cons` / `splitOnce_trim`: the sides of a visible character are trimmed apart
- `lines_append_newline` / `lines_unlines`: lines that were written come back
- `newline_not_mem_of_mem_lines` / `not_mem_of_mem_splitOn`: a line has no newline, and a field
  no separator
- `splitThree_eq_some`: the three fields of a text
-/

namespace VocalScore.Text

/-! ### Trimming -/

/-- A character among some that are not blank is not. -/
theorem isBlank_of_mem {l : List Char} (h : l.all (!isBlank ·) = true) {c : Char} (hc : c ∈ l) :
    isBlank c = false := by
  have hvisible := List.all_eq_true.1 h c hc
  rwa [Bool.not_eq_true'] at hvisible

theorem all_isBlank_eq_false {s : List Char} (hne : s ≠ []) (h : ∀ c ∈ s, isBlank c = false) :
    s.all isBlank = false := by
  obtain ⟨c, r, rfl⟩ := List.exists_cons_of_ne_nil hne
  rw [List.all_cons, h c List.mem_cons_self, Bool.false_and]

theorem trimEnd_eq_rdropWhile (s : List Char) : trimEnd s = s.rdropWhile isBlank := rfl

theorem trimStart_cons {c : Char} (hc : isBlank c = false) (s : List Char) :
    trimStart (c :: s) = c :: s := by
  rw [trimStart, List.dropWhile_cons_of_neg (by simp [hc])]

theorem trimEnd_cons {c : Char} (hc : isBlank c = false) (s : List Char) :
    ∃ r, trimEnd (c :: s) = c :: r := by
  obtain ⟨t, ht⟩ := List.rdropWhile_prefix isBlank (c :: s)
  rw [trimEnd_eq_rdropWhile]
  cases h : List.rdropWhile isBlank (c :: s) with
  | nil =>
    have hall := List.rdropWhile_eq_nil_iff.1 h c List.mem_cons_self
    rw [hc] at hall
    cases hall
  | cons d r =>
    rw [h, List.cons_append] at ht
    exact ⟨r, by rw [(List.cons.inj ht).1]⟩

theorem trim_cons {c : Char} (hc : isBlank c = false) (s : List Char) :
    ∃ r, trim (c :: s) = c :: r := by
  rw [trim, trimStart_cons hc]
  exact trimEnd_cons hc s

/-- Trimming at the back keeps what is in front. -/
theorem head?_trim (s : List Char) : (trim s).head? = (trimStart s).head? := by
  rw [trim]
  cases h : trimStart s with
  | nil => rfl
  | cons c r =>
    obtain ⟨q, hq⟩ := trimEnd_cons (isBlank_of_trimStart h) r
    rw [hq, List.head?_cons, List.head?_cons]

/-- Trimming twice is trimming once. -/
theorem trim_trim (s : List Char) : trim (trim s) = trim s := by
  -- Trimming leaves a visible character in front, so the front is trimmed only once.
  have hstart : trimStart (trim s) = trim s := by
    cases h : trimStart s with
    | nil => rw [trim, h]; rfl
    | cons c r =>
      have hc := isBlank_of_trimStart h
      obtain ⟨q, hq⟩ := trimEnd_cons hc r
      rw [trim, h, hq, trimStart_cons hc]
  rw [trim, hstart, trim, trimEnd_eq_rdropWhile, trimEnd_eq_rdropWhile,
    List.rdropWhile_idempotent]

theorem mem_of_mem_trim {s : List Char} {c : Char} (h : c ∈ trim s) : c ∈ s :=
  (List.dropWhile_suffix isBlank).subset ((List.rdropWhile_prefix isBlank _).subset h)

/-- What is left after trimming does not end with white space. -/
theorem isBlank_of_getLast?_trim {s : List Char} {c : Char} (h : (trim s).getLast? = some c) :
    isBlank c = false := by
  have hne : List.rdropWhile isBlank (trimStart s) ≠ [] := by
    intro hnil
    rw [trim, trimEnd_eq_rdropWhile, hnil] at h
    cases h
  have hvisible := List.rdropWhile_last_not isBlank (trimStart s) hne
  rw [trim, trimEnd_eq_rdropWhile, List.getLast?_eq_some_getLast hne, Option.some.injEq] at h
  rwa [h, Bool.not_eq_true] at hvisible

/-- A text that does not end with a blank has nothing to trim there. -/
theorem trimEnd_eq_self {s : List Char} (hlast : ∀ c, s.getLast? = some c → isBlank c = false) :
    trimEnd s = s := by
  rw [trimEnd_eq_rdropWhile, List.rdropWhile_eq_self_iff]
  intro hne
  rw [hlast _ (List.getLast?_eq_some_getLast hne)]
  decide

/-- Nothing is trimmed between two visible characters. -/
theorem trim_eq_self_of_ends {s : List Char} (hhead : ∀ c, s.head? = some c → isBlank c = false)
    (hlast : ∀ c, s.getLast? = some c → isBlank c = false) : trim s = s := by
  cases s with
  | nil => rfl
  | cons c r => rw [trim, trimStart_cons (hhead c List.head?_cons), trimEnd_eq_self hlast]

/-- A text with no blank character has nothing to trim. -/
theorem trim_eq_self {s : List Char} (h : ∀ c ∈ s, isBlank c = false) : trim s = s :=
  trim_eq_self_of_ends (fun c hc => h c (List.mem_of_head? hc))
    fun c hc => h c (List.mem_of_getLast? hc)

/-- White space in front of a text does not count. -/
theorem trim_blank_append {a : List Char} (ha : a.all isBlank = true) (s : List Char) :
    trim (a ++ s) = trim s := by
  rw [trim, trim, trimStart, trimStart, List.dropWhile_append_of_pos (List.all_eq_true.1 ha)]

/-- Trimming the start stops at a character that is not blank. -/
theorem trimStart_append_cons {d : Char} (hd : isBlank d = false) (a b : List Char) :
    trimStart (a ++ d :: b) = trimStart a ++ d :: b := by
  induction a with
  | nil => exact trimStart_cons hd b
  | cons c a ih =>
    rw [List.cons_append, trimStart, trimStart, List.dropWhile_cons, List.dropWhile_cons]
    split
    · exact ih
    · rfl

/-- Trimming the end stops at a character that is not blank. -/
theorem trimEnd_append_cons {d : Char} (hd : isBlank d = false) (a b : List Char) :
    trimEnd (a ++ d :: b) = a ++ d :: trimEnd b := by
  -- Seen from the end, white space is dropped from the front.
  have hrev := trimStart_append_cons hd b.reverse a.reverse
  rw [trimStart, trimStart] at hrev
  rw [trimEnd, List.reverse_append, List.reverse_cons, List.append_assoc, List.singleton_append,
    hrev, List.reverse_append, List.reverse_cons, List.reverse_reverse, List.append_assoc,
    List.singleton_append, trimEnd]

/-- White space on both sides of a visible character is dropped apart. -/
theorem trim_append_cons {d : Char} (hd : isBlank d = false) (a b : List Char) :
    trim (a ++ d :: b) = trimStart a ++ d :: trimEnd b := by
  rw [trim, trimStart_append_cons hd, trimEnd_append_cons hd]

/-- A trimmed text is not longer. -/
theorem length_trim_le (s : List Char) : (trim s).length ≤ s.length := by
  have hback : ∀ t : List Char, (trimEnd t).length ≤ t.length := fun t => by
    rw [trimEnd, List.length_reverse]
    exact (List.length_dropWhile_le _ _).trans_eq List.length_reverse
  exact (hback (trimStart s)).trans (List.length_dropWhile_le _ _)

theorem trim_trimStart (s : List Char) : trim (trimStart s) = trim s := by
  rw [trim, trim, trimStart, trimStart, List.dropWhile_idempotent]

theorem trimEnd_trimEnd (s : List Char) : trimEnd (trimEnd s) = trimEnd s := by
  rw [trimEnd_eq_rdropWhile, trimEnd_eq_rdropWhile, List.rdropWhile_idempotent]

theorem trim_trimEnd (s : List Char) : trim (trimEnd s) = trim s := by
  cases hs : s.all isBlank with
  | true =>
    have hnil : trimEnd s = [] := by
      rw [trimEnd_eq_rdropWhile, List.rdropWhile_eq_nil_iff]
      exact List.all_eq_true.1 hs
    rw [hnil, (all_isBlank_iff_trim s).1 hs]
    rfl
  | false =>
    -- A visible character keeps both sides apart.
    obtain ⟨d, hmem, hd⟩ := List.all_eq_false.1 hs
    obtain ⟨a, b, rfl⟩ := List.append_of_mem hmem
    rw [Bool.not_eq_true] at hd
    rw [trimEnd_append_cons hd, trim_append_cons hd, trim_append_cons hd, trimEnd_trimEnd]

/-- White space behind a text does not count. -/
theorem trim_append_blank {b : List Char} (hb : b.all isBlank = true) (s : List Char) :
    trim (s ++ b) = trim s := by
  have hend : trimEnd (s ++ b) = trimEnd s := by
    rw [trimEnd, List.reverse_append, List.dropWhile_append_of_pos, trimEnd]
    simpa using hb
  rw [← trim_trimEnd, hend, trim_trimEnd]

/-! ### Lower case -/

/-- White space is not changed by lower case. -/
theorem toLower_of_isBlank {c : Char} (h : isBlank c = true) : c.toLower = c := by
  delta Char.toLower
  rw [dif_neg]
  rintro ⟨hA, hZ⟩
  have hA : 65 ≤ c.toNat := UInt32.le_iff_toNat_le.1 hA
  have hZ : c.toNat ≤ 90 := UInt32.le_iff_toNat_le.1 hZ
  simp only [isBlank, Bool.or_eq_true, Bool.and_eq_true, beq_iff_eq, decide_eq_true_eq] at h
  omega

/-- A text whose lower case is a word without white space has none itself. -/
theorem isBlank_of_lower {s : List Char} {w : String}
    (h : String.ofList (s.map Char.toLower) = w) (hw : w.toList.all (!isBlank ·) = true) :
    ∀ c ∈ s, isBlank c = false := by
  intro c hc
  rw [← Bool.not_eq_true]
  intro hblank
  -- A blank character is its own lower case, and the word has none.
  have hmem : c.toLower ∈ w.toList := by
    rw [← h, String.toList_ofList]
    exact List.mem_map_of_mem hc
  rw [toLower_of_isBlank hblank] at hmem
  rw [isBlank_of_mem hw hmem] at hblank
  cases hblank

/-! ### Lines -/

/-- A line with its newline splits off in front. A carriage return at its end would go with the
newline. -/
theorem lines_append_newline {l : List Char} (hl : '\n' ∉ l) (hcr : l.getLast? ≠ some '\r')
    (s : List Char) : lines (l ++ '\n' :: s) = l :: lines s := by
  induction l with
  | nil => exact lines_newline s
  | cons c r ih =>
    rw [List.mem_cons, not_or] at hl
    -- A carriage return in front of the newline would be the last of the line.
    have hc : ¬(c = '\r' ∧ (r ++ '\n' :: s).head? = some '\n') := by
      rintro ⟨rfl, hhead⟩
      cases r with
      | nil => exact hcr rfl
      | cons d q =>
        rw [List.cons_append, List.head?_cons, Option.some.injEq] at hhead
        exact hl.2 (hhead ▸ List.mem_cons_self)
    have hr : r.getLast? ≠ some '\r' := by
      cases r with
      | nil => exact fun h => nomatch h
      | cons d q => rwa [List.getLast?_cons_cons] at hcr
    rw [List.cons_append, lines, if_neg (Ne.symm hl.1), if_neg hc, ih hl.2 hr]

/-- Lines that were written, each with its newline, come back. -/
theorem lines_unlines {ls : List (List Char)}
    (h : ∀ l ∈ ls, '\n' ∉ l ∧ l.getLast? ≠ some '\r') :
    lines (ls.flatMap (· ++ ['\n'])) = ls := by
  induction ls with
  | nil => rfl
  | cons l ls ih =>
    obtain ⟨hl, hcr⟩ := h l List.mem_cons_self
    rw [List.flatMap_cons, List.append_assoc, List.singleton_append,
      lines_append_newline hl hcr, ih fun k hk => h k (List.mem_cons_of_mem l hk)]

/-- A line has no newline. -/
theorem newline_not_mem_of_mem_lines {s l : List Char} (h : l ∈ lines s) : '\n' ∉ l := by
  induction s generalizing l with
  | nil => exact absurd h List.not_mem_nil
  | cons c r ih =>
    rw [lines] at h
    split at h
    · rcases List.mem_cons.1 h with rfl | h
      · exact List.not_mem_nil
      · exact ih h
    next hc =>
      split at h
      · exact ih h
      · split at h
        · rw [List.mem_singleton.1 h, List.mem_singleton]
          exact Ne.symm hc
        -- The character joins the first line of the rest.
        next k ks hks =>
          rw [hks] at ih
          rcases List.mem_cons.1 h with rfl | h
          · rw [List.mem_cons, not_or]
            exact ⟨Ne.symm hc, ih List.mem_cons_self⟩
          · exact ih (List.mem_cons_of_mem k h)

/-- The characters of a line are some of the text. -/
theorem mem_of_mem_lines {s l : List Char} (h : l ∈ lines s) {d : Char} (hd : d ∈ l) : d ∈ s := by
  induction s generalizing l with
  | nil => exact absurd h List.not_mem_nil
  | cons c r ih =>
    rw [lines] at h
    split at h
    · rcases List.mem_cons.1 h with rfl | h
      · exact absurd hd List.not_mem_nil
      · exact List.mem_cons_of_mem c (ih h hd)
    · split at h
      · exact List.mem_cons_of_mem c (ih h hd)
      · split at h
        next hr =>
          rw [List.mem_singleton.1 h, List.mem_singleton] at hd
          rw [hd]
          exact List.mem_cons_self
        next k ks hks =>
          rw [hks] at ih
          rcases List.mem_cons.1 h with rfl | h
          · rcases List.mem_cons.1 hd with rfl | hd
            · exact List.mem_cons_self
            · exact List.mem_cons_of_mem c (ih List.mem_cons_self hd)
          · exact List.mem_cons_of_mem c (ih (List.mem_cons_of_mem k h) hd)

/-- A character that ends no line is the first of its line. -/
theorem exists_lines_cons {c : Char} (hn : c ≠ '\n') (hcr : c ≠ '\r') (r : List Char) :
    ∃ l ls, lines (c :: r) = (c :: l) :: ls := by
  rw [lines, if_neg hn, if_neg fun h => hcr h.1]
  cases lines r with
  | nil => exact ⟨[], [], rfl⟩
  | cons l ls => exact ⟨l, ls, rfl⟩

/-- Lines that all end in a newline are counted by their newlines. -/
theorem length_lines {s : List Char} (h : s = [] ∨ s.getLast? = some '\n') :
    (lines s).length = s.count '\n' := by
  induction s with
  | nil => rfl
  | cons c r ih =>
    -- The last character is this one or that of the rest.
    have hr : r = [] ∧ c = '\n' ∨ r ≠ [] ∧ r.getLast? = some '\n' := by
      cases r with
      | nil => simpa using h
      | cons d q => exact Or.inr (by simpa [List.getLast?_cons_cons] using h)
    rcases hr with ⟨rfl, rfl⟩ | ⟨hne, hlast⟩
    · rfl
    · have ih := ih (Or.inr hlast)
      by_cases hc : c = '\n'
      · rw [hc, lines_newline, List.length_cons, List.count_cons_self, ih]
      · rw [lines, if_neg hc, List.count_cons_of_ne hc]
        split
        · exact ih
        · -- The character joins the first line of the rest, which is not empty.
          cases hl : lines r with
          | nil => exact absurd hl (lines_ne_nil hne)
          | cons l ls => rw [← ih, hl, List.length_cons, List.length_cons]

theorem mem_of_mem_dropMark {s : List Char} {d : Char} (h : d ∈ dropMark s) : d ∈ s := by
  cases s with
  | nil => exact h
  | cons c r =>
    rw [dropMark] at h
    split at h
    · exact List.mem_cons_of_mem c h
    · exact h

/-- Dropping a mark drops no newline, and leaves the end of the text. -/
theorem dropMark_append {s : List Char} (h : s.getLast? = some '\n') (t : List Char) :
    dropMark (s ++ t) = dropMark s ++ t ∧ (dropMark s).getLast? = some '\n' ∧
      (dropMark s).count '\n' = s.count '\n' := by
  cases s with
  | nil => cases h
  | cons c r =>
    rw [List.cons_append, dropMark, dropMark]
    split
    next hc =>
      refine ⟨rfl, ?_, ?_⟩
      · -- The mark is no newline, so something follows it.
        cases r with
        | nil => rw [hc] at h; exact absurd h (by decide)
        | cons d q => rwa [List.getLast?_cons_cons] at h
      · rw [hc, List.count_cons_of_ne (by decide)]
    · exact ⟨rfl, h, rfl⟩

/-- The lines of a text that is empty or ends in a newline, followed by a text without a mark. -/
theorem lines_dropMark_append {s t : List Char} (hs : s = [] ∨ s.getLast? = some '\n')
    (ht : dropMark t = t) :
    lines (dropMark (s ++ t)) = lines (dropMark s) ++ lines (dropMark t) ∧
      (lines (dropMark s)).length = s.count '\n' := by
  rw [ht]
  rcases hs with rfl | hlast
  · rw [List.nil_append, ht]
    exact ⟨rfl, rfl⟩
  · obtain ⟨happend, hend, hcount⟩ := dropMark_append hlast t
    rw [happend, lines_append _ _ (Or.inr hend), length_lines (Or.inr hend), hcount]
    exact ⟨rfl, rfl⟩

/-- A text keeps all of its characters exactly if there is no mark in front. -/
theorem dropMark_eq_self_iff {s : List Char} : dropMark s = s ↔ s.head? ≠ some '\uFEFF' := by
  cases s with
  | nil => simp [dropMark]
  | cons c r =>
    rw [dropMark, List.head?_cons, ne_eq, Option.some.injEq]
    -- Without its mark a text is shorter.
    constructor
    · intro h hc
      rw [if_pos hc] at h
      exact absurd (congrArg List.length h) (Nat.ne_of_lt (Nat.lt_succ_self r.length))
    · exact fun hc => if_neg hc

/-! ### Fields -/

/-- A part between delimiters has none. -/
theorem not_mem_of_mem_splitOn {d : Char} {s f : List Char} (h : f ∈ splitOn d s) : d ∉ f := by
  induction s generalizing f with
  | nil => rw [List.mem_singleton.1 h]; exact List.not_mem_nil
  | cons c r ih =>
    rw [splitOn] at h
    split at h
    · rcases List.mem_cons.1 h with rfl | h
      · exact List.not_mem_nil
      · exact ih h
    next hc =>
      split at h
      · rw [List.mem_singleton.1 h, List.mem_singleton]
        exact Ne.symm hc
      -- The character joins the first part of the rest.
      next g gs hgs =>
        rw [hgs] at ih
        rcases List.mem_cons.1 h with rfl | h
        · rw [List.mem_cons, not_or]
          exact ⟨Ne.symm hc, ih List.mem_cons_self⟩
        · exact ih (List.mem_cons_of_mem g h)

/-- The characters of a part are some of the text. -/
theorem mem_of_mem_splitOn {d : Char} {s f : List Char} (h : f ∈ splitOn d s) {c : Char}
    (hc : c ∈ f) : c ∈ s := by
  -- The fields joined with the separator are the text, and a field is part of what is joined.
  rw [← joinWith_splitOn d s]
  generalize splitOn d s = fs at h
  induction fs with
  | nil => exact absurd h List.not_mem_nil
  | cons g gs ih =>
    cases gs with
    | nil => rwa [List.mem_singleton.1 h] at hc
    | cons k ks =>
      rw [joinWith, List.append_assoc]
      rcases List.mem_cons.1 h with rfl | h
      · exact List.mem_append_left _ hc
      · exact List.mem_append_right _ (List.mem_append_right _ (ih h))

/-- Every field but the first comes after a separator. -/
theorem joinWith_cons (d : Char) (f : List Char) (fs : List (List Char)) :
    joinWith [d] (f :: fs) = f ++ fs.flatMap (d :: ·) := by
  induction fs generalizing f with
  | nil => simp [joinWith]
  | cons g gs ih => rw [joinWith, ih, List.append_assoc, List.flatMap_cons, List.cons_append]; rfl

/-- Parts without the delimiter are found again after they are joined with it. -/
theorem splitOn_joinWith {d : Char} {fs : List (List Char)} (hne : fs ≠ [])
    (h : ∀ f ∈ fs, d ∉ f) : splitOn d (joinWith [d] fs) = fs := by
  induction fs with
  | nil => exact absurd rfl hne
  | cons f fs ih =>
    have hf := h f List.mem_cons_self
    cases fs with
    | nil => exact splitOn_of_not_mem hf
    | cons g gs =>
      rw [joinWith, List.append_assoc, List.singleton_append, splitOn_append hf,
        ih (List.cons_ne_nil g gs) fun k hk => h k (List.mem_cons_of_mem f hk)]

/-- A visible character is cut at alike before and after trimming. -/
theorem splitOnce_trim {d : Char} (hd : isBlank d = false) (s : List Char) :
    splitOnce d (trim s) = (splitOnce d s).map fun p => (trimStart p.1, trimEnd p.2) := by
  cases h : splitOnce d s with
  -- Trimming takes no delimiter away, for it is not blank, and adds none.
  | none =>
    rw [splitOnce_eq_none] at h
    exact splitOnce_eq_none.2 fun hmem => h (mem_of_mem_trim hmem)
  | some p =>
    obtain ⟨a, b⟩ := p
    obtain ⟨rfl, ha⟩ := splitOnce_eq_some.1 h
    rw [trim_append_cons hd]
    exact splitOnce_append (fun hmem => ha ((List.dropWhile_suffix isBlank).subset hmem)) _

/-- There are three fields unless there are less than two separators. -/
theorem splitThree_eq_none {d : Char} {s : List Char} : splitThree d s = none ↔ s.count d < 2 := by
  rw [splitThree]
  cases h : splitOnce d s with
  | none =>
    have hcount := List.count_eq_zero_of_not_mem (splitOnce_eq_none.1 h)
    simp [hcount]
  | some p =>
    -- One separator is where the text was cut first.
    obtain ⟨rfl, ha⟩ := splitOnce_eq_some.1 h
    have hcount := List.count_eq_zero_of_not_mem ha
    simp only [Option.map_eq_none_iff, splitOnce_eq_none, List.count_append, hcount,
      List.count_cons_self, ← List.count_eq_zero]
    omega

/-- The first two of three fields have no separator; the third may. -/
theorem splitThree_eq_some {d : Char} {s a b c : List Char} :
    splitThree d s = some (a, b, c) ↔ s = a ++ d :: b ++ d :: c ∧ d ∉ a ∧ d ∉ b := by
  rw [splitThree]
  constructor
  · intro h
    split at h
    · cases h
    next a' r hr =>
      -- Cut at the first delimiter, and what follows it at the next one.
      obtain ⟨⟨b', c'⟩, hbc, heq⟩ := Option.map_eq_some_iff.1 h
      cases heq
      obtain ⟨rfl, ha⟩ := splitOnce_eq_some.1 hr
      obtain ⟨rfl, hb⟩ := splitOnce_eq_some.1 hbc
      exact ⟨by rw [List.append_assoc, List.cons_append], ha, hb⟩
  · rintro ⟨rfl, ha, hb⟩
    rw [List.append_assoc, List.cons_append, splitOnce_append ha]
    simp only [splitOnce_append hb, Option.map_some]

end VocalScore.Text
