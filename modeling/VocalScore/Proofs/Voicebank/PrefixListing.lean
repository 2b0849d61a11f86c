import Mathlib.Data.List.Dedup
import Mathlib.Data.List.Sort
import VocalScore.Proofs.Text.LineBreaks
import VocalScore.Proofs.Voicebank.PrefixText

/-!
# The written text of a prefix map

A map is written with one line for each of its pitches, in the order that the options give. Which
bindings made the map does not show in its text, but for the last one of each pitch. Where no field
has a newline, the text can be cut into its lines in one way only, and the text that goes down is
the one that goes up with its lines in reverse order.

## Key results

- `isListing_inOrder` / `IsListing.unique`: bindings have one listing, which is what is written
- `isTextOf_iff`: the lines of a listing are those that the writer makes
- `eq_of_flatten_eq`: written lines that make one text are the same
- `render_canonical`: all of these for the text of a map, and what follows for the two orders
-/

namespace VocalScore.PrefixMap

/-! ### The listing of bindings -/

/-- The bindings that a map is written as, if it was made by others: those of the pitches that were
bound, each once and in order, with the last affix that the pitch was bound to. -/
structure IsListing (before : UInt8 → UInt8 → Prop) (made listed : List (UInt8 × Affix)) :
    Prop where
  ordered : listed.Pairwise fun a b => before a.1 b.1
  mem_iff : ∀ n a, (n, a) ∈ listed ↔ last? made n = some a

variable {before : UInt8 → UInt8 → Prop} {o : PrefixMapOptions}
  {made listed : List (UInt8 × Affix)}

/-- A map gives a pitch the last affix that it was bound to. -/
theorem get?_ofList (made : List (UInt8 × Affix)) (n : UInt8) :
    (ofList made).get? n = last? made n := by
  rw [ofList, get?_foldl_insert, get?_empty, Option.or_none]

/-- The sorted pitches go strictly upwards in any total order, as no pitch is bound twice. -/
theorem sortedPitches_ordered (o : PrefixMapOptions) [Std.TransCmp o.order]
    [Std.LawfulEqCmp o.order] (m : PrefixMap) :
    (m.sortedPitches o).Pairwise fun a b => o.order a b = .lt := by
  have hle : (m.sortedPitches o).Pairwise fun a b => (o.order a b).isLE := by
    apply List.pairwise_mergeSort
    · intro a b c hab hbc
      exact Std.TransCmp.isLE_trans hab hbc
    · -- A comparator that is oriented is total.
      intro a b
      have hswap : o.order b a = (o.order a b).swap := Std.OrientedCmp.eq_swap
      rw [hswap]
      cases o.order a b <;> rfl
  have hnodup : (m.sortedPitches o).Nodup := (sortedPitches_perm o m).nodup_iff.2 m.nodup_pitches
  -- The sort gives a weak order, and that no pitch is there twice makes it strict.
  apply hle.imp₂ _ hnodup
  intro a b hab hne
  cases hcompare : o.order a b with
  | lt => rfl
  | eq => exact absurd (Std.LawfulEqCmp.eq_of_compare hcompare) hne
  | gt => simp [hcompare] at hab

/-- What is written lists the bindings that made the map. -/
theorem isListing_inOrder (o : PrefixMapOptions) [Std.TransCmp o.order] [Std.LawfulEqCmp o.order]
    (made : List (UInt8 × Affix)) :
    IsListing (fun m n => o.order m n = .lt) made ((ofList made).inOrder o) where
  ordered := by
    rw [inOrder, List.pairwise_filterMap]
    apply (sortedPitches_ordered o (ofList made)).imp
    intro m n hlt e he e' he'
    -- An entry is looked up under its own pitch.
    obtain ⟨a, -, rfl⟩ := Option.map_eq_some_iff.1 he
    obtain ⟨a', -, rfl⟩ := Option.map_eq_some_iff.1 he'
    exact hlt
  mem_iff n a := by rw [mem_inOrder, mem_entries_iff, get?_ofList]

/-- The entries of a map list its bindings upwards. -/
theorem isListing_entries (made : List (UInt8 × Affix)) :
    IsListing (· < ·) made (ofList made).entries where
  ordered := (ofList made).sorted
  mem_iff n a := by rw [mem_entries_iff, get?_ofList]

/-- The entries in reverse list its bindings downwards. -/
theorem isListing_reverse (made : List (UInt8 × Affix)) :
    IsListing (· > ·) made (ofList made).entries.reverse where
  ordered := List.pairwise_reverse.2 (ofList made).sorted
  mem_iff n a := by rw [List.mem_reverse, mem_entries_iff, get?_ofList]

/-- Bindings have one listing. -/
theorem IsListing.unique [Std.Asymm before] {listed' : List (UInt8 × Affix)}
    (h : IsListing before made listed) (h' : IsListing before made listed') : listed = listed' := by
  have : Std.Asymm fun a b : UInt8 × Affix => before a.1 b.1 :=
    ⟨fun a b => Std.Asymm.asymm a.1 b.1⟩
  exact h.ordered.eq_of_mem_iff h'.ordered fun (n, a) => by rw [h.mem_iff, h'.mem_iff]

/-- A listing has each pitch that was bound once. -/
theorem IsListing.perm_keys [Std.Asymm before] (h : IsListing before made listed) :
    (listed.map Prod.fst).Perm (made.map Prod.fst).dedup := by
  -- Neither of the two has a pitch twice, so it is enough that they have the same members.
  have hnodup : (listed.map Prod.fst).Nodup := by
    rw [List.Nodup, List.pairwise_map]
    apply h.ordered.imp
    intro a b hab heq
    rw [heq] at hab
    exact Std.Asymm.asymm _ _ hab hab
  refine (List.perm_ext_iff_of_nodup hnodup (List.nodup_dedup _)).2 fun n => ?_
  rw [List.mem_dedup]
  have hbound : (∃ a, last? made n = some a) ↔ n ∈ made.map Prod.fst := by
    rw [← Option.isSome_iff_exists, ← Option.ne_none_iff_isSome, ne_eq, last?_eq_none_iff]
    simp
  rw [← hbound]
  simp [h.mem_iff]

/-! ### Written lines -/

/-- The line of a binding: the name of the pitch and the text before and after a lyric, each as it
is, between delimiters. -/
def IsLineOf (o : PrefixMapOptions) (e : UInt8 × Affix) (line : List Char) : Prop :=
  ∃ name, PitchName.IsNameOf o.sharps o.octaves e.1 name ∧
    line = name ++ o.delimiter :: e.2.before.toList ++ o.delimiter :: e.2.after.toList ++ ['\n']

/-- A text is made of the lines of bindings, one for each. -/
def IsTextOf (o : PrefixMapOptions) (listed : List (UInt8 × Affix)) (text : List Char) : Prop :=
  ∃ lines, List.Forall₂ (IsLineOf o) listed lines ∧ text = lines.flatten

/-- A binding has one line. -/
theorem isLineOf_iff {e : UInt8 × Affix} {line : List Char} :
    IsLineOf o e line ↔ line = renderEntry o e := by
  simp [IsLineOf, PitchName.isNameOf_iff, renderEntry]

/-- Bindings have one text. -/
theorem isTextOf_iff {text : List Char} :
    IsTextOf o listed text ↔ text = listed.flatMap (renderEntry o) := by
  have hline : IsLineOf o = fun e line => renderEntry o e = line := by
    funext e line
    simp only [isLineOf_iff, eq_comm]
  have hlines : ∀ lines, List.Forall₂ (IsLineOf o) listed lines ↔
      listed.map (renderEntry o) = lines := fun lines => by
    rw [hline, ← List.forall₂_map_left_iff (R := Eq), List.forall₂_eq_eq_eq]
  simp [IsTextOf, hlines, List.flatMap_def]

/-- A line as it is written, with its newline: three fields between delimiters, none of which has a
newline. -/
def IsWritten (delimiter : Char) (line : List Char) : Prop :=
  ∃ name before after, line = name ++ delimiter :: before ++ delimiter :: after ++ ['\n'] ∧
    '\n' ∉ name ∧ '\n' ∉ before ∧ '\n' ∉ after

/-- A delimiter may be a newline, which then stands twice in every line. -/
theorem IsWritten.count_newline {d : Char} {line : List Char} (h : IsWritten d line) :
    line.count '\n' = if d = '\n' then 3 else 1 := by
  obtain ⟨name, before, after, rfl, hname, hbefore, hafter⟩ := h
  have hfields := List.count_eq_zero_of_not_mem hname
  simp [List.count_cons, List.count_eq_zero_of_not_mem hbefore, hfields,
    List.count_eq_zero_of_not_mem hafter]
  split <;> rfl

/-- A written line ends in its newline. -/
theorem IsWritten.getLast? {d : Char} {line : List Char} (h : IsWritten d line) :
    line.getLast? = some '\n' := by
  obtain ⟨name, before, after, rfl, -⟩ := h
  exact List.getLast?_concat

/-- A written line has its newline at least. -/
theorem IsWritten.ne_nil {d : Char} {line : List Char} (h : IsWritten d line) : line ≠ [] := by
  rintro rfl
  cases h.getLast?

/-- A text is cut into written lines in at most one way. -/
theorem eq_of_flatten_eq {d : Char} {ls ls' : List (List Char)} (h : ∀ l ∈ ls, IsWritten d l)
    (h' : ∀ l ∈ ls', IsWritten d l) (heq : ls.flatten = ls'.flatten) : ls = ls' := by
  -- The first lines have as many newlines and end in one, so neither goes on in the other.
  induction ls generalizing ls' with
  | nil =>
    cases ls' with
    | nil => rfl
    | cons l' ls' =>
      -- A line is not empty, since it has its newline.
      have hnil := (List.append_eq_nil_iff.1 heq.symm).1
      exact absurd hnil (h' l' List.mem_cons_self).ne_nil
  | cons l ls ih =>
    cases ls' with
    | nil =>
      have hnil := (List.append_eq_nil_iff.1 heq).1
      exact absurd hnil (h l List.mem_cons_self).ne_nil
    | cons l' ls' =>
      have hl := h l List.mem_cons_self
      have hl' := h' l' List.mem_cons_self
      obtain ⟨rfl, hrest⟩ := Text.append_inj_of_newline heq hl.getLast? hl'.getLast?
        (hl.count_newline.trans hl'.count_newline.symm)
      rw [ih (fun k hk => h k (List.mem_cons_of_mem l hk))
        (fun k hk => h' k (List.mem_cons_of_mem l hk)) hrest]

/-- The line of a binding without newlines. -/
theorem isWritten_renderEntry (o : PrefixMapOptions) {e : UInt8 × Affix}
    (hbefore : '\n' ∉ e.2.before.toList) (hafter : '\n' ∉ e.2.after.toList) :
    IsWritten o.delimiter (renderEntry o e) := by
  refine ⟨PitchName.render o.sharps o.octaves e.1, _, _, rfl, fun hname => ?_, hbefore, hafter⟩
  -- No character of a name is blank, and a newline is.
  have hblank := PitchName.isBlank_of_isNameChar (PitchName.isNameChar_of_mem_render hname)
  revert hblank
  decide

/-! ### Texts -/

/-- Options that write the lowest pitch first. -/
def upwards (o : PrefixMapOptions) : PrefixMapOptions := { o with order := compare }

/-- Options that write the highest pitch first. -/
def downwards (o : PrefixMapOptions) : PrefixMapOptions := { o with order := highestFirst }

instance : Std.TransCmp highestFirst :=
  inferInstanceAs (Std.TransCmp fun m n : UInt8 => compare n m)

instance : Std.LawfulEqCmp highestFirst :=
  inferInstanceAs (Std.LawfulEqCmp fun m n : UInt8 => compare n m)

/-- The text of a map shows the bindings that made it in an order: they have one listing, with each
pitch that was bound, and the text is made of its lines. -/
structure WrittenInOrder (before : UInt8 → UInt8 → Prop) (o : PrefixMapOptions)
    (made : List (UInt8 × Affix)) : Prop where
  listing : ∃! listed, IsListing before made listed
  perm_keys : ∀ listed, IsListing before made listed →
    (listed.map Prod.fst).Perm (made.map Prod.fst).dedup
  text : ∀ listed, IsListing before made listed → IsTextOf o listed ((ofList made).render o)

/-- No field has a newline, of the bindings that count. -/
def OnOneLine (made : List (UInt8 × Affix)) : Prop :=
  ∀ n a, last? made n = some a → '\n' ∉ a.before.toList ∧ '\n' ∉ a.after.toList

/-- A text is made of written lines. -/
def IsMadeOf (delimiter : Char) (text : List Char) (ls : List (List Char)) : Prop :=
  (∀ l ∈ ls, IsWritten delimiter l) ∧ text = ls.flatten

/-- The lines of a map, the lowest pitch first. -/
def writtenLines (o : PrefixMapOptions) (m : PrefixMap) : List (List Char) :=
  m.entries.map (renderEntry o)

/-- A map is written line by line, in its order. -/
theorem render_eq_inOrder (o : PrefixMapOptions) (m : PrefixMap) :
    m.render o = (m.inOrder o).flatMap (renderEntry o) := by
  rw [render_eq_flatMap, List.flatMap_map]
  rfl

/-- It is enough to know the listing that is written. -/
theorem writtenInOrder_of_inOrder [Std.Asymm before]
    (h : IsListing before made ((ofList made).inOrder o)) : WrittenInOrder before o made where
  listing := ⟨_, h, fun listed hlisted => hlisted.unique h⟩
  perm_keys listed hlisted := hlisted.perm_keys
  text listed hlisted := by rw [isTextOf_iff, render_eq_inOrder, hlisted.unique h]

/-- A map is written in any total order. -/
theorem writtenInOrder (o : PrefixMapOptions) [Std.TransCmp o.order] [Std.LawfulEqCmp o.order]
    (made : List (UInt8 × Affix)) : WrittenInOrder (fun m n => o.order m n = .lt) o made := by
  have : Std.Asymm fun m n => o.order m n = .lt := by
    refine ⟨fun m n h h' => ?_⟩
    have hswap : o.order n m = (o.order m n).swap := Std.OrientedCmp.eq_swap
    simp [hswap, h] at h'
  exact writtenInOrder_of_inOrder (isListing_inOrder o made)

/-- Upwards, a pitch is written before the higher ones. -/
theorem isListing_upwards (o : PrefixMapOptions) (made : List (UInt8 × Affix)) :
    IsListing (· < ·) made ((ofList made).inOrder (upwards o)) := by
  have h := isListing_inOrder { o with order := compare } made
  exact ⟨h.ordered.imp Std.compare_eq_lt.1, h.mem_iff⟩

/-- Downwards, a pitch is written before the lower ones. -/
theorem isListing_downwards (o : PrefixMapOptions) (made : List (UInt8 × Affix)) :
    IsListing (· > ·) made ((ofList made).inOrder (downwards o)) := by
  have h := isListing_inOrder { o with order := highestFirst } made
  exact ⟨h.ordered.imp Std.compare_eq_lt.1, h.mem_iff⟩

/-- Upwards, the entries are written as they stand in the map. -/
theorem render_upwards (o : PrefixMapOptions) (made : List (UInt8 × Affix)) :
    (ofList made).render (upwards o) = (writtenLines o (ofList made)).flatten := by
  rw [render_eq_inOrder, (isListing_upwards o made).unique (isListing_entries made),
    List.flatMap_def]
  rfl

/-- Downwards, the last entry is written first. -/
theorem render_downwards (o : PrefixMapOptions) (made : List (UInt8 × Affix)) :
    (ofList made).render (downwards o) = (writtenLines o (ofList made)).reverse.flatten := by
  rw [render_eq_inOrder, (isListing_downwards o made).unique (isListing_reverse made),
    List.flatMap_def, List.map_reverse]
  rfl

/-- Without a newline in a field, the lines are written ones. -/
theorem isWritten_of_mem_writtenLines (o : PrefixMapOptions) (h : OnOneLine made) :
    ∀ line ∈ writtenLines o (ofList made), IsWritten o.delimiter line := by
  intro line hline
  obtain ⟨⟨n, a⟩, he, rfl⟩ := List.mem_map.1 hline
  rw [mem_entries_iff, get?_ofList] at he
  exact isWritten_renderEntry o (h n a he).1 (h n a he).2

/-- The lines of a map are the only ones that its text is made of. -/
theorem isMadeOf_upwards_iff (o : PrefixMapOptions) (h : OnOneLine made)
    {ls : List (List Char)} :
    IsMadeOf o.delimiter ((ofList made).render (upwards o)) ls ↔
      ls = writtenLines o (ofList made) := by
  have hlines := isWritten_of_mem_writtenLines o h
  constructor
  · rintro ⟨hls, heq⟩
    exact eq_of_flatten_eq hls hlines (heq.symm.trans (render_upwards o _))
  · rintro rfl
    exact ⟨hlines, render_upwards o _⟩

/-- The same lines make the text that goes down. -/
theorem isMadeOf_downwards (o : PrefixMapOptions) (h : OnOneLine made) :
    IsMadeOf o.delimiter ((ofList made).render (downwards o))
      (writtenLines o (ofList made)).reverse :=
  ⟨fun l hl => isWritten_of_mem_writtenLines o h l (List.mem_reverse.1 hl), render_downwards o _⟩

/-- Unless the delimiter is a newline, a written line is what a newline ends. -/
theorem render_downwards_eq_reverseLines (h : OnOneLine made) (hd : o.delimiter ≠ '\n') :
    (ofList made).render (downwards o) = Text.reverseLines ((ofList made).render (upwards o)) := by
  have hnewline : ∀ line ∈ (ofList made).entries.map (renderBinding o), '\n' ∉ line := by
    intro line hline
    obtain ⟨e, he, rfl⟩ := List.mem_map.1 hline
    -- The newline at the end is the only one.
    have hcount := (isWritten_of_mem_writtenLines o h _ (List.mem_map_of_mem he)).count_newline
    have hsplit : renderEntry o e = renderBinding o e ++ ['\n'] := rfl
    rw [if_neg hd, hsplit, List.count_append, List.count_singleton_self] at hcount
    exact List.count_eq_zero.1 (Nat.succ.inj hcount)
  have hlines : writtenLines o (ofList made) =
      ((ofList made).entries.map (renderBinding o)).map (· ++ ['\n']) := by
    rw [writtenLines, List.map_map]
    rfl
  rw [render_upwards, render_downwards, hlines, ← List.map_reverse, ← List.flatMap_def,
    ← List.flatMap_def, Text.reverseLines_flatMap hnewline]

/-- Bindings make a text that has one line for each pitch that was bound, with the name of the pitch
and the last text before and after a lyric that it was bound to. The lines go strictly upwards in
the order that the options give, if it is a total one, and so from the lowest pitch to the highest
or from the highest to the lowest. Bindings that end alike make the same text. If no field has a
newline, the text that goes up is made of lines in exactly one way, and these in reverse order make
the text that goes down; unless the delimiter is a newline itself, they are what newlines end. -/
theorem render_canonical (o : PrefixMapOptions) (made : List (UInt8 × Affix)) :
    (Std.TransCmp o.order → Std.LawfulEqCmp o.order →
      WrittenInOrder (fun m n => o.order m n = .lt) o made) ∧
    WrittenInOrder (· < ·) (upwards o) made ∧
    WrittenInOrder (· > ·) (downwards o) made ∧
    (∀ made', (∀ n, last? made n = last? made' n) →
      (ofList made).render o = (ofList made').render o) ∧
    (OnOneLine made →
      (∃! ls, IsMadeOf o.delimiter ((ofList made).render (upwards o)) ls) ∧
      (∀ ls, IsMadeOf o.delimiter ((ofList made).render (upwards o)) ls →
        IsMadeOf o.delimiter ((ofList made).render (downwards o)) ls.reverse) ∧
      (o.delimiter ≠ '\n' → (ofList made).render (downwards o) =
        Text.reverseLines ((ofList made).render (upwards o)))) := by
  refine ⟨fun _ _ => writtenInOrder o made, writtenInOrder_of_inOrder (isListing_upwards o made),
    writtenInOrder_of_inOrder (isListing_downwards o made), fun made' h => ?_,
    fun h => ⟨?_, ?_, render_downwards_eq_reverseLines h⟩⟩
  · have hsame : ofList made = ofList made' := ext_get? fun n => by rw [get?_ofList, get?_ofList, h]
    rw [hsame]
  · exact ⟨_, (isMadeOf_upwards_iff o h).2 rfl, fun ls hls => (isMadeOf_upwards_iff o h).1 hls⟩
  · intro ls hls
    rw [(isMadeOf_upwards_iff o h).1 hls]
    exact isMadeOf_downwards o h

/-- Bindings of two pitches, one of which is bound again. -/
def rebound : List (UInt8 × Affix) := [(61, ⟨"a", "b"⟩), (60, ⟨"", "x"⟩), (61, ⟨"", "y"⟩)]

/-- Only the last binding of a pitch shows, in both orders. -/
theorem render_canonical_rebound :
    IsListing (· > ·) rebound [(61, ⟨"", "y"⟩), (60, ⟨"", "x"⟩)] ∧
    (ofList rebound).render (downwards {}) = "Db5\t\ty\nC5\t\tx\n".toList ∧
    WrittenInOrder (fun m n => compare m n = .lt) {} rebound ∧
    (∀ n, last? rebound n = last? [(60, ⟨"", "x"⟩), (61, ⟨"", "y"⟩)] n) ∧
    (ofList rebound).render {} = (ofList [(60, ⟨"", "x"⟩), (61, ⟨"", "y"⟩)]).render {} ∧
    OnOneLine rebound ∧
    (ofList rebound).render (downwards {}) =
      Text.reverseLines ((ofList rebound).render (upwards {})) := by
  obtain ⟨hany, -, hdown, hsame, hreverse⟩ := render_canonical {} rebound
  have hlisting : IsListing (· > ·) rebound [(61, ⟨"", "y"⟩), (60, ⟨"", "x"⟩)] :=
    isListing_reverse rebound
  have htext := isTextOf_iff.1 (hdown.text _ hlisting)
  -- The first binding of 60 is overridden.
  have hend : ∀ n, last? rebound n = last? [(60, ⟨"", "x"⟩), (61, ⟨"", "y"⟩)] n := by
    have hmaps : ofList rebound = ofList [(60, ⟨"", "x"⟩), (61, ⟨"", "y"⟩)] := by decide
    intro n
    rw [← get?_ofList, ← get?_ofList, hmaps]
  have hfields : OnOneLine rebound := by
    have hall : ∀ e ∈ rebound, '\n' ∉ e.2.before.toList ∧ '\n' ∉ e.2.after.toList := by decide
    intro n a h
    obtain ⟨before, after, heq, -⟩ := last?_eq_some_iff.1 h
    exact hall (n, a) (heq ▸ List.mem_append_right before List.mem_cons_self)
  refine ⟨hlisting, ?_, hany (inferInstanceAs (Std.TransOrd UInt8))
    (inferInstanceAs (Std.LawfulEqOrd UInt8)), hend, hsame _ hend, hfields,
    (hreverse hfields).2.2 (by decide)⟩
  rw [htext]
  decide +kernel

end VocalScore.PrefixMap
