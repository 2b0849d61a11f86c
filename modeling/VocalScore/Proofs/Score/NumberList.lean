import VocalScore.Proofs.Score.FieldText

/-!
# Lists of numbers, all or nothing

A list of numbers is read as a whole or not at all. One item that is no number fails the list, at
the least place of such an item and with its text as it stands, and what is listed after it is not
looked at. A list that is written down reads back with any white space around its numbers.

## Key results

- `listed_eq_iff`: what the items of a list are
- `numbers_eq_ok_iff_forall₂` / `exists_numbers_eq_ok_iff`: a list is read if all its items are
- `numbers_eq_error_iff_isLeast`: otherwise its first wrong item is the fault
- `numbers_eq_of_take`: items after a wrong one do not matter
- `numbers_spacedText`: numbers with white space around them read back
-/

namespace VocalScore.Field

open Traversal
open Text (isBlank)

/-! ### Items and places of wrong items -/

/-- The items of a list, which are the texts between its commas. -/
def listed (raw : String) : List (List Char) := Text.splitOn ',' raw.toList

/-- A text is cut into its items in one way: none of them has a comma, and with commas between them
they are the text. -/
theorem listed_eq_iff {raw : String} {ts : List (List Char)} :
    listed raw = ts ↔ ts ≠ [] ∧ (∀ t ∈ ts, ',' ∉ t) ∧ joined ts = raw := by
  constructor
  · rintro rfl
    refine ⟨Text.splitOn_ne_nil _ _, fun t ht => Text.not_mem_of_mem_splitOn ht, ?_⟩
    rw [joined, listed, Text.joinWith_splitOn, String.ofList_toList]
  · rintro ⟨hne, hcomma, rfl⟩
    rw [listed, joined, String.toList_ofList, Text.splitOn_joinWith hne hcomma]

/-- The places of a list where an item is no number. -/
def wrongPlaces (raw : String) : Set Nat :=
  {k | ∃ t, (listed raw)[k]? = some t ∧ ¬∃ x, IsNumber t x}

/-- An item that is left out is wrong, although a list that is left out has no items. -/
theorem mem_wrongPlaces_of_blank {raw : String} {k : Nat} {t : List Char}
    (ht : (listed raw)[k]? = some t) (hblank : t.all isBlank = true) : k ∈ wrongPlaces raw :=
  ⟨t, ht, fun ⟨x, hx⟩ => not_isNumber_of_blank hblank x hx⟩

/-- The items of a text that is not blank are read one by one. -/
theorem numbers_of_not_blank (field : String) {raw : String} (h : Text.blank raw = false) :
    numbers field raw = items field 0 (listed raw) := by
  rw [numbers, h, if_neg Bool.false_ne_true, listed]

/-- The numbers of a list that is not blank are those of its items, one by one. -/
theorem numbers_eq_ok_iff_forall₂ {field raw : String} {xs : List Float}
    (hblank : Text.blank raw = false) :
    numbers field raw = .ok xs ↔ List.Forall₂ IsNumber (listed raw) xs := by
  rw [numbers_of_not_blank field hblank, items_eq_ok_iff]

/-- A list that is not blank is read exactly if no item is wrong. -/
theorem exists_numbers_eq_ok_iff {field raw : String} (hblank : Text.blank raw = false) :
    (∃ xs, numbers field raw = .ok xs) ↔ ∀ t ∈ listed raw, ∃ x, IsNumber t x := by
  simp only [numbers_eq_ok_iff_forall₂ hblank, exists_forall₂_iff]

/-- The fault of a list is its item at the least wrong place. -/
theorem numbers_eq_error_iff_isLeast {field raw : String} {e : ScoreError}
    (hblank : Text.blank raw = false) :
    numbers field raw = .error e ↔
      ∃ i t, IsLeast (wrongPlaces raw) i ∧ (listed raw)[i]? = some t ∧
        e = .invalidListItem field i (String.ofList t) := by
  rw [numbers_of_not_blank field hblank, items_eq_error_iff]
  simp only [Nat.zero_add]
  -- The reader cuts the list before the fault; the length of what it has read is the place.
  constructor
  · rintro ⟨before, t, after, hlisted, hbefore, ht, rfl⟩
    have hplace := isLeast_place_iff.2 ⟨before, after, hlisted, rfl, hbefore, not_exists.2 ht⟩
    exact ⟨before.length, t, hplace.1, hplace.2, rfl⟩
  · rintro ⟨i, t, hleast, hget, rfl⟩
    obtain ⟨before, after, hlisted, rfl, hbefore, ht⟩ := isLeast_place_iff.1 ⟨hleast, hget⟩
    exact ⟨before, t, after, hlisted, hbefore, not_exists.1 ht, rfl⟩

/-! ### Items after a wrong one -/

section Agreement

variable {raw other : String} {n : Nat}

/-- Lists with the same first items have the same item at each of these places. -/
theorem getElem?_listed_of_take (h : (listed other).take n = (listed raw).take n) {k : Nat}
    (hk : k < n) : (listed other)[k]? = (listed raw)[k]? := by
  rw [← List.getElem?_take_of_lt hk, h, List.getElem?_take_of_lt hk]

/-- So they have the same wrong places among these. -/
theorem mem_wrongPlaces_of_take (h : (listed other).take n = (listed raw).take n) {k : Nat}
    (hk : k < n) : k ∈ wrongPlaces other ↔ k ∈ wrongPlaces raw := by
  simp only [wrongPlaces, Set.mem_ofPred_eq, getElem?_listed_of_take h hk]

/-- Lists with the same items up to a wrong one have the same first wrong item. -/
theorem isLeast_wrongPlaces_of_take (h : (listed other).take n = (listed raw).take n) {i : Nat}
    (hi : i < n) (hleast : IsLeast (wrongPlaces raw) i) : IsLeast (wrongPlaces other) i := by
  refine ⟨(mem_wrongPlaces_of_take h hi).2 hleast.1, fun k hk => ?_⟩
  -- A wrong place before `i` would be one of both lists.
  by_contra hlt
  have hraw : k ∈ wrongPlaces raw := (mem_wrongPlaces_of_take h (by omega)).1 hk
  exact hlt (hleast.2 hraw)

/-- A list with a wrong item fails, and it fails alike whatever is listed after that item. -/
theorem numbers_eq_of_take {field : String} {i : Nat} (hraw : Text.blank raw = false)
    (hother : Text.blank other = false) (hi : i ∈ wrongPlaces raw)
    (h : (listed other).take (i + 1) = (listed raw).take (i + 1)) :
    numbers field other = numbers field raw := by
  cases hread : numbers field raw with
  | ok xs =>
    obtain ⟨t, ht, hwrong⟩ := hi
    have hall := (exists_numbers_eq_ok_iff hraw).1 ⟨xs, hread⟩
    exact absurd (hall t (List.mem_of_getElem? ht)) hwrong
  | error e =>
    -- The first wrong item is not after the one at `i`, so both lists have it.
    obtain ⟨j, t, hleast, ht, rfl⟩ := (numbers_eq_error_iff_isLeast hraw).1 hread
    have hj : j < i + 1 := Nat.lt_succ_of_le (hleast.2 hi)
    rw [numbers_eq_error_iff_isLeast hother]
    refine ⟨j, t, isLeast_wrongPlaces_of_take h hj hleast, ?_, rfl⟩
    rw [getElem?_listed_of_take h hj, ht]

end Agreement

/-! ### White space around numbers -/

/-- A number that is written down with white space around it. -/
structure SpacedNumber where
  before : List Char
  value : Float
  after : List Char
  blank_before : before.all isBlank = true
  blank_after : after.all isBlank = true

namespace SpacedNumber

/-- The plain text of the number between its white space. -/
def text (n : SpacedNumber) : List Char := n.before ++ Number.plain n.value ++ n.after

/-- The white space around a number is trimmed away. -/
theorem trim_text (n : SpacedNumber) : Text.trim n.text = Number.plain n.value := by
  rw [text, Text.trim_append_blank n.blank_after, Text.trim_blank_append n.blank_before,
    trim_plain]

/-- A number with white space around it is that number. -/
theorem isNumber_text (n : SpacedNumber) : IsNumber n.text n.value := by
  rw [IsNumber, trim_text, Number.read_plain]

/-- No comma is white space or stands in a number. -/
theorem comma_notMem_text (n : SpacedNumber) : ',' ∉ n.text := by
  rw [text, List.mem_append, List.mem_append]
  rintro ((h | h) | h)
  · exact comma_notMem_of_blank n.blank_before h
  · exact (isItem_plain n.value).comma h
  · exact comma_notMem_of_blank n.blank_after h

end SpacedNumber

/-- The text of numbers with white space around each. -/
def spacedText (ns : List SpacedNumber) : String := joined (ns.map SpacedNumber.text)

/-- Numbers read back from their texts, whatever white space there is around these. -/
theorem numbers_spacedText (field : String) {ns : List SpacedNumber} (h : ns ≠ []) :
    numbers field (spacedText ns) = .ok (ns.map SpacedNumber.value) := by
  rw [numbers_eq_ok_iff, spacedText]
  apply isNumbers_joined
  · simpa using h
  · simpa using fun n _ => SpacedNumber.comma_notMem_text n
  · rw [List.forall₂_map_left_iff, List.forall₂_map_right_iff, List.forall₂_same]
    exact fun n _ => n.isNumber_text

/-! ### All or nothing -/

/-- A blank text lists no numbers. Any other text, cut at its commas, is read exactly if each item
is a number, and then as these numbers in their order; else the fault is the item at the least wrong
place, as it stands in the text, and whatever is listed after a wrong item changes nothing. An item
that is blank is wrong. Numbers that are written down with any white space around each read back. -/
theorem numbers_all_or_first_wrong (field raw : String) :
    (∀ ts, listed raw = ts ↔ ts ≠ [] ∧ (∀ t ∈ ts, ',' ∉ t) ∧ joined ts = raw) ∧
    (Text.blank raw = true → numbers field raw = .ok []) ∧
    (Text.blank raw = false →
      ((∃ xs, numbers field raw = .ok xs) ↔ ∀ t ∈ listed raw, ∃ x, IsNumber t x) ∧
      (∀ xs, numbers field raw = .ok xs ↔ List.Forall₂ IsNumber (listed raw) xs) ∧
      (∀ e, numbers field raw = .error e ↔ ∃ i t, IsLeast (wrongPlaces raw) i ∧
        (listed raw)[i]? = some t ∧ e = .invalidListItem field i (String.ofList t)) ∧
      ∀ i ∈ wrongPlaces raw, ∀ other, Text.blank other = false →
        (listed other).take (i + 1) = (listed raw).take (i + 1) →
        numbers field other = numbers field raw) ∧
    (∀ k t, (listed raw)[k]? = some t → t.all isBlank = true → k ∈ wrongPlaces raw) ∧
    ∀ ns : List SpacedNumber, ns ≠ [] →
      numbers field (spacedText ns) = .ok (ns.map SpacedNumber.value) := by
  refine ⟨fun ts => listed_eq_iff, fun hblank => ?_,
    fun hblank => ⟨?_, fun xs => ?_, fun e => ?_, ?_⟩, ?_, ?_⟩
  · rw [numbers, if_pos hblank]
  · exact exists_numbers_eq_ok_iff hblank
  · exact numbers_eq_ok_iff_forall₂ hblank
  · exact numbers_eq_error_iff_isLeast hblank
  · intro i hi other hother htake
    exact numbers_eq_of_take hblank hother hi htake
  · intro k t ht hitem
    exact mem_wrongPlaces_of_blank ht hitem
  · intro ns hne
    exact numbers_spacedText field hne

/-- The second item is the fault, although the third one is blank, and whatever the fourth one is.
-/
theorem numbers_all_or_first_wrong_second :
    Text.blank "1, x,,2" = false ∧ 2 ∈ wrongPlaces "1, x,,2" ∧
      numbers "PBW" "1, x,,2" = .error (.invalidListItem "PBW" 1 " x") ∧
      numbers "PBW" "1, x,,,9" = .error (.invalidListItem "PBW" 1 " x") ∧
      numbers "PBW" " \t" = .ok [] ∧ numbers "PBW" "\t65 ,-0.5\n" = .ok [65.0, -0.5] := by
  obtain ⟨-, -, hread, hitem, hspaced⟩ := numbers_all_or_first_wrong "PBW" "1, x,,2"
  have hblank : Text.blank "1, x,,2" = false := by decide
  obtain ⟨-, -, herror, hlater⟩ := hread hblank
  -- The third item is wrong, but it is not the first that is.
  have hwrong : 2 ∈ wrongPlaces "1, x,,2" := hitem 2 [] (by decide) rfl
  have hleast : IsLeast (wrongPlaces "1, x,,2") 1 := by
    have hone : ∀ t ∈ [['1']], ∃ x, IsNumber t x := by
      intro t ht
      rw [List.mem_singleton.1 ht]
      exact ⟨_, rfl⟩
    have hx : ¬∃ x, IsNumber [' ', 'x'] x := fun ⟨x, hx⟩ => nomatch hx
    exact (isLeast_place_iff.2 ⟨[['1']], [[], ['2']], rfl, rfl, hone, hx⟩).1
  have hfirst : numbers "PBW" "1, x,,2" = .error (.invalidListItem "PBW" 1 " x") :=
    (herror _).2 ⟨1, [' ', 'x'], hleast, rfl, rfl⟩
  have hother : numbers "PBW" "1, x,,,9" = numbers "PBW" "1, x,,2" :=
    hlater 2 hwrong _ (by decide) (by decide)
  have hnone : numbers "PBW" " \t" = .ok [] :=
    (numbers_all_or_first_wrong "PBW" " \t").2.1 (by decide)
  have hspaces := hspaced [⟨['\t'], 65.0, [' '], rfl, rfl⟩, ⟨[], -0.5, ['\n'], rfl, rfl⟩]
    (List.cons_ne_nil _ _)
  have htext : spacedText [⟨['\t'], 65.0, [' '], rfl, rfl⟩, ⟨[], -0.5, ['\n'], rfl, rfl⟩] =
      "\t65 ,-0.5\n" := by decide +kernel
  exact ⟨hblank, hwrong, hfirst, hother.trans hfirst, hnone, htext ▸ hspaces⟩

end VocalScore.Field
