import VocalScore.Proofs.Text.Scanning
import VocalScore.Proofs.Traversal
import VocalScore.Score.Field

/-!
# The grammar of single values

Which texts are numbers, lists of numbers, lists of codes and words for true or false, what they
stand for, and which item of a list is the first one that is wrong. A blank list of numbers has no
items, but a blank item of a list is wrong; among codes a blank item is passed over.

## Key results

- `number_eq_ok_iff` / `number_eq_error_iff`: numbers
- `numbers_eq_ok_iff` / `numbers_eq_error_iff`: lists of numbers
- `modes_eq_ok_iff` / `modes_eq_error_iff`: lists of codes
- `flag_eq_ok_iff` / `flag_eq_error_iff`: words for true and false
-/

namespace VocalScore.Field

open Traversal

/-! ### Numbers -/

/-- The number that a text stands for, without the white space around it. -/
def IsNumber (s : List Char) (x : Float) : Prop := Number.read (Text.trim s) = some x

theorem IsNumber.unique {s : List Char} {x y : Float} (hx : IsNumber s x) (hy : IsNumber s y) :
    x = y :=
  Option.some.inj (hx.symm.trans hy)

/-- White space around a number does not count. -/
theorem isNumber_trim {s : List Char} {x : Float} : IsNumber (Text.trim s) x ↔ IsNumber s x := by
  rw [IsNumber, Text.trim_trim, IsNumber]

/-- Blank text is no number. -/
theorem not_isNumber_of_blank {s : List Char} (h : s.all Text.isBlank = true) (x : Float) :
    ¬IsNumber s x := by
  rw [IsNumber, (Text.all_isBlank_iff_trim s).1 h]
  intro hread
  cases hread

/-- A number is read exactly if the text is one. -/
theorem number_eq_ok_iff {field raw : String} {x : Float} :
    number field raw = .ok x ↔ IsNumber raw.toList x := by
  rw [number, IsNumber]
  cases Number.read (Text.trim raw.toList) with
  | none => simp
  | some y => simp

/-- The error of a number has its text as it stands. -/
theorem number_eq_error_iff {field raw : String} {e : ScoreError} :
    number field raw = .error e ↔
      (∀ x, ¬IsNumber raw.toList x) ∧ e = .invalidNumber field raw := by
  refine FailsWith.eq_error_iff ?_ fun x => number_eq_ok_iff
  rw [number]
  split
  · exact .ok _
  · exact .error rfl

theorem number_ofList_eq_ok_iff {field : String} {t : List Char} {x : Float} :
    number field (String.ofList t) = .ok x ↔ IsNumber t x := by
  rw [number_eq_ok_iff, String.toList_ofList]

theorem number_ofList_eq_error_iff {field : String} {t : List Char} {e : ScoreError} :
    number field (String.ofList t) = .error e ↔
      (∀ x, ¬IsNumber t x) ∧ e = .invalidNumber field (String.ofList t) := by
  rw [number_eq_error_iff, String.toList_ofList]

/-! ### Lists of numbers -/

/-- The numbers that a text lists: none if it is blank, and else one for each item between its
commas. -/
inductive IsNumbers (s : List Char) : List Float → Prop
  | blank (h : s.all Text.isBlank = true) : IsNumbers s []
  | items {xs : List Float} (h : List.Forall₂ IsNumber (Text.splitOn ',' s) xs) : IsNumbers s xs

/-- What is wrong with a list of numbers: it is not blank, and has a first item that is no
number. -/
inductive FaultyNumbers (field : String) (s : List Char) : ScoreError → Prop
  | item {before after : List (List Char)} {t : List Char} (hblank : s.all Text.isBlank = false)
      (hs : Text.splitOn ',' s = before ++ t :: after)
      (hbefore : ∀ u ∈ before, ∃ x, IsNumber u x) (h : ∀ x, ¬IsNumber t x) :
      FaultyNumbers field s (.invalidListItem field before.length (String.ofList t))

/-- An item is read with its place, and the rest from the next place on. -/
theorem items_cons (field : String) (i : Nat) (s : List Char) (rest : List (List Char)) :
    items field i (s :: rest) =
      match Number.read (Text.trim s) with
      | none => .error (.invalidListItem field i (String.ofList s))
      | some x => (items field (i + 1) rest).map (x :: ·) := rfl

/-- Items are read exactly if each is a number. -/
theorem items_eq_ok_iff {field : String} {i : Nat} {ts : List (List Char)} {xs : List Float} :
    items field i ts = .ok xs ↔ List.Forall₂ IsNumber ts xs := by
  induction ts generalizing i xs with
  | nil => simp [items, eq_comm]
  | cons s rest ih =>
    rw [items_cons, List.forall₂_cons_left_iff]
    cases hs : Number.read (Text.trim s) with
    | none => simp [IsNumber, hs]
    | some x =>
      -- The first item is a number, and only one.
      simp only [map_eq_ok_iff, ih]
      constructor
      · rintro ⟨ys, hys, rfl⟩
        exact ⟨x, ys, hs, hys, rfl⟩
      · rintro ⟨y, ys, hy, hys, rfl⟩
        obtain rfl := IsNumber.unique hs hy
        exact ⟨ys, hys, rfl⟩

/-- Items are counted from the first one on, and the first that is no number is the fault. -/
theorem items_eq_error_iff {field : String} {i : Nat} {ts : List (List Char)} {e : ScoreError} :
    items field i ts = .error e ↔
      ∃ before t after, ts = before ++ t :: after ∧ (∀ u ∈ before, ∃ x, IsNumber u x) ∧
        (∀ x, ¬IsNumber t x) ∧
        e = .invalidListItem field (i + before.length) (String.ofList t) := by
  induction ts generalizing i with
  | nil => simp [items]
  | cons s rest ih =>
    rw [items_cons]
    cases hs : Number.read (Text.trim s) with
    | none =>
      -- The first item is the fault, and no later one is looked at.
      have hnot : ∀ x, ¬IsNumber s x := fun x hx => by rw [IsNumber, hs] at hx; cases hx
      constructor
      · rintro ⟨⟩
        exact ⟨[], s, rest, rfl, by simp, hnot, rfl⟩
      · rintro ⟨before, t, after, hts, hbefore, -, rfl⟩
        cases before with
        | nil =>
          obtain ⟨rfl, rfl⟩ := List.cons.inj hts
          rfl
        | cons u before =>
          obtain ⟨rfl, rfl⟩ := List.cons.inj hts
          obtain ⟨x, hx⟩ := hbefore s List.mem_cons_self
          exact absurd hx (hnot x)
    | some x =>
      rw [map_eq_error_iff, ih]
      constructor
      · -- A fault of the rest is one item further on.
        rintro ⟨before, t, after, rfl, hbefore, ht, rfl⟩
        refine ⟨s :: before, t, after, rfl, List.forall_mem_cons.2 ⟨⟨x, hs⟩, hbefore⟩, ht, ?_⟩
        rw [List.length_cons, Nat.add_right_comm, Nat.add_assoc]
      · rintro ⟨before, t, after, hts, hbefore, ht, rfl⟩
        cases before with
        | nil =>
          obtain ⟨rfl, rfl⟩ := List.cons.inj hts
          exact absurd hs (ht x)
        | cons u before =>
          obtain ⟨rfl, rfl⟩ := List.cons.inj hts
          refine ⟨before, t, after, rfl, (List.forall_mem_cons.1 hbefore).2, ht, ?_⟩
          rw [List.length_cons, Nat.add_right_comm, Nat.add_assoc]

/-- A comma is visible. -/
theorem comma_notMem_of_blank {s : List Char} (h : s.all Text.isBlank = true) : ',' ∉ s := by
  intro hmem
  cases List.all_eq_true.1 h _ hmem

/-- A blank text is one item between commas, which is no number. -/
theorem not_forall₂_of_blank {s : List Char} (h : s.all Text.isBlank = true) (xs : List Float) :
    ¬List.Forall₂ IsNumber (Text.splitOn ',' s) xs := by
  rw [Text.splitOn_of_not_mem (comma_notMem_of_blank h), List.forall₂_cons_left_iff]
  rintro ⟨x, -, hx, -⟩
  exact not_isNumber_of_blank h x hx

/-- A list of numbers is read exactly if the text lists them. -/
theorem numbers_eq_ok_iff {field raw : String} {xs : List Float} :
    numbers field raw = .ok xs ↔ IsNumbers raw.toList xs := by
  rw [numbers, Text.blank]
  cases hblank : raw.toList.all Text.isBlank with
  -- A blank text would have one blank item, which is wrong; so it is asked for first.
  | true =>
    rw [if_pos rfl]
    constructor
    · rintro ⟨⟩
      exact .blank hblank
    · rintro (_ | h)
      · rfl
      · exact absurd h (not_forall₂_of_blank hblank xs)
  | false =>
    rw [if_neg Bool.false_ne_true, items_eq_ok_iff]
    constructor
    · exact .items
    · rintro (h | h)
      · rw [hblank] at h
        cases h
      · exact h

/-- The error of a list of numbers is its first wrong item, with its place. -/
theorem numbers_eq_error_iff {field raw : String} {e : ScoreError} :
    numbers field raw = .error e ↔ FaultyNumbers field raw.toList e := by
  rw [numbers, Text.blank]
  cases hblank : raw.toList.all Text.isBlank with
  | true =>
    rw [if_pos rfl]
    constructor
    · rintro ⟨⟩
    · -- A blank text has no fault.
      rintro ⟨h, -, -, -⟩
      rw [hblank] at h
      cases h
  | false =>
    rw [if_neg Bool.false_ne_true, items_eq_error_iff]
    simp only [Nat.zero_add]
    constructor
    · rintro ⟨before, t, after, hs, hbefore, ht, rfl⟩
      exact .item hblank hs hbefore ht
    · rintro ⟨-, hs, hbefore, ht⟩
      exact ⟨_, _, _, hs, hbefore, ht, rfl⟩

/-- A text lists numbers exactly if it is blank or each of its items is a number. -/
theorem exists_isNumbers_iff {s : List Char} :
    (∃ xs, IsNumbers s xs) ↔
      s.all Text.isBlank = true ∨ ∀ t ∈ Text.splitOn ',' s, ∃ x, IsNumber t x := by
  rw [← exists_forall₂_iff]
  constructor
  · rintro ⟨xs, h | h⟩
    · exact Or.inl h
    · exact Or.inr ⟨xs, h⟩
  · rintro (h | ⟨xs, h⟩)
    · exact ⟨[], .blank h⟩
    · exact ⟨xs, .items h⟩

/-! ### Codes -/

/-- The mode whose code a text is, without the white space around it: one of four small letters. -/
inductive IsCode (s : List Char) : Interpolation → Prop
  | linear (h : Text.trim s = ['l']) : IsCode s .linear
  | sine (h : Text.trim s = ['s']) : IsCode s .sine
  | rigid (h : Text.trim s = ['r']) : IsCode s .rigid
  | jump (h : Text.trim s = ['j']) : IsCode s .jump

/-- The modes that a text lists: one for each item between its commas that is not blank. -/
def IsModes (s : List Char) (ms : List Interpolation) : Prop :=
  List.Forall₂ IsCode ((Text.splitOn ',' s).filter fun t => !t.all Text.isBlank) ms

/-- What is wrong with a list of codes: its first item that is neither blank nor a code. -/
inductive FaultyModes (s : List Char) : ScoreError → Prop
  | item {before after : List (List Char)} {t : List Char}
      (hs : Text.splitOn ',' s = before ++ t :: after)
      (hbefore : ∀ u ∈ before, u.all Text.isBlank = true ∨ ∃ m, IsCode u m)
      (hblank : t.all Text.isBlank = false) (h : ∀ m, ¬IsCode t m) :
      FaultyModes s (.invalidMode (String.ofList (Text.trim t)))

/-- A letter is read as the mode that is written with it. -/
theorem ofCode?_eq_some_iff {code : String} {m : Interpolation} :
    Interpolation.ofCode? code = some m ↔ code = m.code := by
  constructor
  · intro h
    unfold Interpolation.ofCode? at h
    -- One case for each letter, and one for all other texts.
    split at h <;> cases h <;> rfl
  · rintro rfl
    exact Interpolation.ofCode?_code m

/-- The code of a mode is its letter. -/
theorem isCode_iff {s : List Char} {m : Interpolation} :
    IsCode s m ↔ String.ofList (Text.trim s) = m.code := by
  rw [← String.toList_inj, String.toList_ofList]
  constructor
  · rintro (h | h | h | h) <;> exact h
  · intro h
    cases m with
    | linear => exact .linear h
    | sine => exact .sine h
    | rigid => exact .rigid h
    | jump => exact .jump h

/-- A code is read exactly if it is that of a mode. -/
theorem mode_eq_ok_iff {code : String} {m : Interpolation} :
    mode code = .ok m ↔ code = m.code := by
  rw [mode, ← ofCode?_eq_some_iff]
  cases Interpolation.ofCode? code <;> simp

/-- The error of a code is the code. -/
theorem mode_eq_error_iff {code : String} {e : ScoreError} :
    mode code = .error e ↔ (∀ m : Interpolation, code ≠ m.code) ∧ e = .invalidMode code := by
  refine FailsWith.eq_error_iff ?_ fun m => mode_eq_ok_iff
  rw [mode]
  split
  · exact .ok _
  · exact .error rfl

/-- The items that are not blank are read one by one. -/
theorem modes_eq_mapM (raw : String) :
    modes raw = ((Text.splitOn ',' raw.toList).filter fun t => !t.all Text.isBlank).mapM
      fun t => mode (String.ofList (Text.trim t)) := by
  have hblank : ∀ t : List Char, decide (Text.trim t ≠ []) = !t.all Text.isBlank := by
    intro t
    rw [Bool.eq_iff_iff, decide_eq_true_iff, Bool.not_eq_true', ← Bool.not_eq_true, ne_eq,
      Text.all_isBlank_iff_trim]
  rw [modes, List.filter_map, List.mapM_map]
  simp only [Function.comp_def, hblank]

/-- A list of codes is read exactly if the text lists them. -/
theorem modes_eq_ok_iff {raw : String} {ms : List Interpolation} :
    modes raw = .ok ms ↔ IsModes raw.toList ms := by
  rw [modes_eq_mapM, mapM_eq_ok_iff, IsModes]
  simp only [mode_eq_ok_iff, ← isCode_iff]

/-- The error of a list of codes is its first wrong code. -/
theorem modes_eq_error_iff {raw : String} {e : ScoreError} :
    modes raw = .error e ↔ FaultyModes raw.toList e := by
  simp only [modes_eq_mapM, mapM_filter_eq_error_iff, mode_eq_ok_iff, mode_eq_error_iff,
    Bool.not_eq_true', ne_eq, ← isCode_iff]
  constructor
  · rintro ⟨before, t, after, hs, hbefore, hblank, ht, rfl⟩
    refine .item hs (fun u hu => ?_) hblank ht
    -- Blank codes are dropped before any is read.
    cases hu' : u.all Text.isBlank with
    | true => exact Or.inl rfl
    | false => exact Or.inr (hbefore u hu hu')
  · rintro ⟨hs, hbefore, hblank, ht⟩
    refine ⟨_, _, _, hs, fun u hu hu' => ?_, hblank, ht, rfl⟩
    exact (hbefore u hu).resolve_left (Bool.eq_false_iff.1 hu')

/-- A text lists modes exactly if each of its items is blank or a code. -/
theorem exists_isModes_iff {s : List Char} :
    (∃ ms, IsModes s ms) ↔
      ∀ t ∈ Text.splitOn ',' s, t.all Text.isBlank = true ∨ ∃ m, IsCode t m := by
  simp only [IsModes, exists_forall₂_iff, List.mem_filter, Bool.not_eq_true']
  constructor
  · intro h t ht
    cases hblank : t.all Text.isBlank with
    | true => exact Or.inl rfl
    | false => exact Or.inr (h t ⟨ht, hblank⟩)
  · rintro h t ⟨ht, hblank⟩
    exact (h t ht).resolve_left (Bool.eq_false_iff.1 hblank)

/-! ### Words for true and false -/

/-- The choice that a text makes, without the white space around it and whatever its case. -/
inductive IsFlag (s : String) : Bool → Prop
  | yes (h : Text.lowerAscii (Text.trimmed s) ∈ ["1", "t", "true", "y", "yes", "on"]) :
      IsFlag s true
  | no (h : Text.lowerAscii (Text.trimmed s) ∈ ["0", "f", "false", "n", "no", "off"]) :
      IsFlag s false

/-- The empty text is no word. -/
theorem not_isFlag_empty (b : Bool) : ¬IsFlag "" b := by
  rintro (h | h) <;> revert h <;> decide

/-- A word is read as the choice that it makes. -/
theorem flag_eq_ok_iff {field raw : String} {b : Bool} :
    flag field raw = .ok b ↔ IsFlag raw b := by
  -- No word is for both choices.
  have hother : ∀ w ∈ falseWords, w ∉ trueWords := by decide
  have hyes : trueWords.contains (Text.lowerAscii (Text.trimmed raw)) = true ↔ IsFlag raw true :=
    List.contains_iff_mem.trans ⟨.yes, fun | .yes h => h⟩
  have hno : falseWords.contains (Text.lowerAscii (Text.trimmed raw)) = true ↔ IsFlag raw false :=
    List.contains_iff_mem.trans ⟨.no, fun | .no h => h⟩
  simp only [flag]
  split
  next htrue =>
    have hb : ¬IsFlag raw false := by
      rintro (_ | h)
      exact hother _ h (List.contains_iff_mem.1 htrue)
    cases b <;> simp [hb, hyes.1 htrue]
  next htrue =>
    rw [hyes] at htrue
    split
    next hfalse => cases b <;> simp [htrue, hno.1 hfalse]
    next hfalse =>
      rw [hno] at hfalse
      cases b <;> simp [htrue, hfalse]

/-- A text that makes no choice is quoted as it stands. -/
theorem flag_eq_error_iff {field raw : String} {e : ScoreError} :
    flag field raw = .error e ↔ (∀ b, ¬IsFlag raw b) ∧ e = .invalidFlag field raw := by
  refine FailsWith.eq_error_iff ?_ fun b => flag_eq_ok_iff
  simp only [flag]
  split
  · exact .ok _
  · split
    · exact .ok _
    · exact .error rfl

end VocalScore.Field
