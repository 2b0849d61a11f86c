import VocalScore.Proofs.Voicebank.LiveLines
import VocalScore.Proofs.Voicebank.ProfileLines

/-!
# Texts of profiles

What a line of a profile is does not depend on any other line, so two texts one after the other are
read as two profiles, of which the second overrides the first and whose free texts are put together.
Free text is read as free text again.

## Key results

- `setting?_eq_some_iff` / `isFree_eq`: which lines set a field, and which are free text
- `get_read_append` / `extra_read_append`: two texts one after the other
- `read_extra`: the free text by itself
- `read_in_parts`: all of these for the text as a whole
-/

namespace VocalScore.Profile

/-! ### Kinds of lines -/

/-- A line gives a field a value: the key of the field stands before its first `=`, which does not
come first, and the value after it. White space around the two does not count. -/
def Gives (s : Slot) (line : List Char) (v : String) : Prop :=
  ∃ key value, line = key ++ '=' :: value ∧ '=' ∉ key ∧ key ≠ [] ∧
    String.ofList (Text.trim key) = s.key ∧ v = s.store (Text.trim value)

/-- A line is free text: it has no `=`, or begins with it. -/
def IsFree (line : List Char) : Prop := '=' ∉ line ∨ line.head? = some '='

instance (line : List Char) : Decidable (IsFree line) :=
  inferInstanceAs (Decidable ('=' ∉ line ∨ line.head? = some '='))

/-- Some line of a text gives a field a value. -/
def SetIn (s : Slot) (text : String) : Prop :=
  ∃ line ∈ Text.lines text.toList, ∃ v, Gives s line v

/-- The value that the last line for a field gives it. -/
def IsLastGiven (s : Slot) (text : String) (v : String) : Prop :=
  ∃ before line after, Text.lines text.toList = before ++ line :: after ∧ Gives s line v ∧
    ∀ l ∈ after, ∀ w, ¬Gives s l w

/-- A line sets a field exactly if it gives it. -/
theorem setting?_eq_some_iff {s : Slot} {line : List Char} {v : String} :
    setting? s line = some v ↔ Gives s line v := by
  rw [setting?]
  constructor
  · intro h
    split at h
    · cases h
    -- The key is what stands before the first `=`.
    next key value hsplit =>
      obtain ⟨hline, hkey⟩ := Text.splitOnce_eq_some.1 hsplit
      split at h
      next hc => exact ⟨key, value, hline, hkey, hc.1, hc.2, (Option.some.inj h).symm⟩
      · cases h
  · rintro ⟨key, value, rfl, hkey, hne, hname, rfl⟩
    rw [Text.splitOnce_append hkey]
    exact if_pos ⟨hne, hname⟩

/-- A line that gives nothing sets nothing. -/
theorem setting?_eq_none_iff {s : Slot} {line : List Char} :
    setting? s line = none ↔ ∀ v, ¬Gives s line v := by
  simp only [Option.eq_none_iff_forall_not_mem, Option.mem_def, setting?_eq_some_iff]

/-- The lines of the free text are the free ones. -/
theorem isFree_eq (line : List Char) : isFree line = decide (IsFree line) := by
  rw [Bool.eq_iff_iff, decide_eq_true_iff, isFree, IsFree]
  cases hsplit : Text.splitOnce '=' line with
  | none => exact iff_of_true rfl (Or.inl (Text.splitOnce_eq_none.1 hsplit))
  | some parts =>
    obtain ⟨key, value⟩ := parts
    obtain ⟨rfl, hkey⟩ := Text.splitOnce_eq_some.1 hsplit
    cases key with
    | nil => simp
    | cons c key =>
      -- The first character is not the separator, which comes later.
      rw [List.mem_cons, not_or] at hkey
      simp [Ne.symm hkey.1]

/-- Free text gives no field a value. -/
theorem IsFree.not_gives {line : List Char} (h : IsFree line) (s : Slot) (v : String) :
    ¬Gives s line v := by
  rintro ⟨key, value, rfl, hkey, hne, -⟩
  obtain ⟨c, r, rfl⟩ := List.exists_cons_of_ne_nil hne
  rcases h with hnone | hhead
  · exact hnone (List.mem_append_right _ List.mem_cons_self)
  · rw [List.cons_append, List.head?_cons, Option.some.injEq] at hhead
    exact hkey (hhead ▸ List.mem_cons_self)

/-! ### Fields of texts -/

/-- The value that a text gives a field, by its last line for the field. -/
def given? (s : Slot) (text : String) : Option String :=
  (Text.lines text.toList).reverse.findSome? (setting? s)

/-- A field holds what is given last, or its default. -/
theorem get_read (text : String) (s : Slot) :
    (read text).get s = (given? s text).or (({} : Profile).get s) :=
  get_foldl_readLine {} _ s

/-- A field is not given exactly if no line gives it. -/
theorem given?_eq_none_iff {s : Slot} {text : String} : given? s text = none ↔ ¬SetIn s text := by
  simp [given?, SetIn, setting?_eq_none_iff]

/-- What is given is what the last line for the field gives. -/
theorem given?_eq_some_iff {s : Slot} {text : String} {v : String} :
    given? s text = some v ↔ IsLastGiven s text v := by
  rw [given?, List.findSome?_eq_some_iff]
  simp only [setting?_eq_some_iff, setting?_eq_none_iff]
  constructor
  · rintro ⟨after, line, before, hlines, hgives, hafter⟩
    refine ⟨before.reverse, line, after.reverse, ?_, hgives, fun l hl => ?_⟩
    · simpa using congrArg List.reverse hlines
    · exact hafter l (List.mem_reverse.1 hl)
  · rintro ⟨before, line, after, hlines, hgives, hafter⟩
    refine ⟨after.reverse, line, before.reverse, ?_, hgives, fun l hl => ?_⟩
    · rw [hlines]
      simp
    · exact hafter l (List.mem_reverse.1 hl)

/-- A field that is given last is given. -/
theorem IsLastGiven.setIn {s : Slot} {text : String} {v : String} (h : IsLastGiven s text v) :
    SetIn s text := by
  obtain ⟨before, line, after, hlines, hgives, -⟩ := h
  exact ⟨line, hlines ▸ List.mem_append_cons_self, v, hgives⟩

/-- A field holds what the last line for it gives. -/
theorem IsLastGiven.get_read {s : Slot} {text : String} {v : String} (h : IsLastGiven s text v) :
    (read text).get s = some v := by
  rw [Profile.get_read, given?_eq_some_iff.2 h, Option.some_or]

/-! ### Texts -/

/-- Lines after a text that ends a line are lines of their own. -/
theorem lines_append {text more : String} (htext : EndsLine text) :
    Text.lines (text ++ more).toList = Text.lines text.toList ++ Text.lines more.toList := by
  rw [String.toList_append, Text.lines_append _ _ htext]

/-- A field of the second text overrides that of the first. -/
theorem get_read_append {text more : String} (htext : EndsLine text) (s : Slot) :
    (SetIn s more → (read (text ++ more)).get s = (read more).get s) ∧
    (¬SetIn s more → (read (text ++ more)).get s = (read text).get s) := by
  -- The lines are searched from the end, so those of the second text come first.
  have hgiven : given? s (text ++ more) = (given? s more).or (given? s text) := by
    rw [given?, lines_append htext, List.reverse_append, List.findSome?_append]
    rfl
  rw [get_read, get_read, get_read, hgiven, Option.or_assoc]
  constructor
  · intro h
    cases hmore : given? s more with
    | none => exact absurd h (given?_eq_none_iff.1 hmore)
    | some v => rw [Option.some_or, Option.some_or]
  · intro h
    rw [given?_eq_none_iff.2 h, Option.none_or]

/-- The free text is made of the free lines, each with a newline. -/
theorem extra_read (text : String) :
    (read text).extra = String.ofList
      (((Text.lines text.toList).filter fun line => IsFree line).flatMap (· ++ ['\n'])) := by
  rw [read, extra_foldl_readLine, String.empty_append, freeText, funext isFree_eq]

/-- The free text of the second text comes after that of the first. -/
theorem extra_read_append {text more : String} (htext : EndsLine text) :
    (read (text ++ more)).extra = (read text).extra ++ (read more).extra := by
  rw [extra_read, extra_read, extra_read, lines_append htext, List.filter_append,
    List.flatMap_append, String.ofList_append]

/-- The free text of a text without carriage returns has the same lines as it had there. -/
theorem lines_extra {text : String} (h : '\r' ∉ text.toList) :
    Text.lines (read text).extra.toList =
      (Text.lines text.toList).filter fun line => IsFree line := by
  rw [extra_read, String.toList_ofList]
  refine Text.lines_unlines fun l hl => ?_
  have hline := (List.mem_filter.1 hl).1
  exact ⟨Text.newline_not_mem_of_mem_lines hline,
    fun hlast => h (Text.mem_of_mem_lines hline (List.mem_of_getLast? hlast))⟩

/-- Free text is a profile that has nothing else. -/
theorem read_extra {text : String} (h : '\r' ∉ text.toList) :
    read (read text).extra = { extra := (read text).extra } := by
  have hfree : ∀ l ∈ Text.lines (read text).extra.toList, IsFree l := by
    rw [lines_extra h]
    exact fun l hl => of_decide_eq_true (List.mem_filter.1 hl).2
  refine ext_get (fun s => ?_) ?_
  · have hnone : given? s (read text).extra = none :=
      given?_eq_none_iff.2 fun ⟨l, hl, v, hv⟩ => (hfree l hl).not_gives s v hv
    rw [get_read, hnone, Option.none_or]
    cases s <;> rfl
  · show (read (read text).extra).extra = (read text).extra
    -- The lines that are left are free, so that none of them is dropped this time.
    rw [extra_read (read text).extra, lines_extra h, List.filter_filter]
    simp only [Bool.and_self]
    rw [← extra_read]

/-- A field of a profile holds what the last line for it gives, if there is one. The free text is
that of the lines without `=` or with `=` in front, in their order and each with a newline; if the
text has no carriage return, it is read as itself and sets no field. A text that starts on a line of
its own is read as a profile of its own, whose fields override the others and whose free text comes
after theirs. -/
theorem read_in_parts (text : String) :
    (∀ s v, IsLastGiven s text v → (read text).get s = some v) ∧
    (read text).extra = String.ofList
      (((Text.lines text.toList).filter fun line => IsFree line).flatMap (· ++ ['\n'])) ∧
    ('\r' ∉ text.toList → read (read text).extra = { extra := (read text).extra }) ∧
    ∀ more, EndsLine text →
      (read (text ++ more)).extra = (read text).extra ++ (read more).extra ∧
      ∀ s, (SetIn s more → (read (text ++ more)).get s = (read more).get s) ∧
        (¬SetIn s more → (read (text ++ more)).get s = (read text).get s) :=
  ⟨fun _ _ h => h.get_read, extra_read text, read_extra, fun _ htext =>
    ⟨extra_read_append htext, get_read_append htext⟩⟩

/-- The second text has a new name, and a line that begins with `=`. -/
theorem read_in_parts_new_name :
    EndsLine "name=a\nauthor=c\nhello\n" ∧
    (read ("name=a\nauthor=c\nhello\n" ++ "=x\n name = b\n")).extra = "hello\n=x\n" ∧
    IsLastGiven .name "=x\n name = b\n" "b" ∧
    (read ("name=a\nauthor=c\nhello\n" ++ "=x\n name = b\n")).get .name = some "b" ∧
    ¬SetIn .author "=x\n name = b\n" ∧
    (read ("name=a\nauthor=c\nhello\n" ++ "=x\n name = b\n")).get .author = some "c" ∧
    '\r' ∉ "=x\n name = b\n".toList ∧
    read (read "=x\n name = b\n").extra = { extra := "=x\n" } := by
  have htext : EndsLine "name=a\nauthor=c\nhello\n" := Or.inr (by decide)
  have hlast : IsLastGiven .name "=x\n name = b\n" "b" := given?_eq_some_iff.1 (by decide)
  have hauthor : ¬SetIn .author "=x\n name = b\n" := given?_eq_none_iff.1 (by decide)
  have hreturn : '\r' ∉ "=x\n name = b\n".toList := by decide
  obtain ⟨hextra, hget⟩ := (read_in_parts _).2.2.2 "=x\n name = b\n" htext
  refine ⟨htext, hextra.trans (by decide), hlast, ?_, hauthor,
    ((hget .author).2 hauthor).trans (by decide), hreturn,
    ((read_in_parts _).2.2.1 hreturn).trans (by decide)⟩
  rw [(hget .name).1 hlast.setIn, (read_in_parts _).1 .name "b" hlast]

end VocalScore.Profile
