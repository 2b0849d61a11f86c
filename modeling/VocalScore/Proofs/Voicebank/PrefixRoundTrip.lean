import Mathlib.Data.List.Nodup
import VocalScore.Proofs.Traversal
import VocalScore.Proofs.Voicebank.PitchRoundTrip
import VocalScore.Voicebank.PrefixMap

/-!
# When the text of a prefix map reads back

The reader trims what it takes before and after a lyric and cuts a line at its first two
delimiters. A map comes back exactly if that leaves its fields as they are, and every map that
was read is such a map.

## Key results

- `ext_get?`: maps that give all pitches the same are equal
- `ofList_of_perm`: a map is put together from its entries in any arrangement
- `inOrder_perm`: whatever the order of the pitches, every entry is written once
- `readBinding_eq_ok_iff`: a line is a binding if it has a pitch and two more fields
- `tidy_of_read`: whatever is read comes back
- `read_render_iff_tidy`: the exact condition
-/

namespace VocalScore

namespace PrefixMap

open Traversal

/-! ### Putting a map together -/

/-- A pitch above all others goes to the end. -/
theorem insertEntry_of_gt {n : UInt8} {a : Affix} {l : List (UInt8 × Affix)}
    (h : ∀ e ∈ l, e.1 < n) : insertEntry n a l = l ++ [(n, a)] := by
  induction l with
  | nil => rfl
  | cons e l ih =>
    have he : e.1 < n := h e List.mem_cons_self
    rw [insertEntry, if_neg (UInt8.not_lt.2 (UInt8.le_of_lt he)), if_neg (UInt8.ne_of_lt he).symm,
      ih fun f hf => h f (List.mem_cons_of_mem e hf), List.cons_append]

/-- Bindings of higher pitches, in order, are added at the end. -/
private theorem entries_foldl_insert (m : PrefixMap) (l : List (UInt8 × Affix))
    (h : (m.entries ++ l).Pairwise fun a b => a.1 < b.1) :
    (l.foldl (fun m e => m.insert e.1 e.2) m).entries = m.entries ++ l := by
  induction l generalizing m with
  | nil => rw [List.foldl_nil, List.append_nil]
  | cons e l ih =>
    -- All pitches of the map are below the next one.
    have hlast : (m.insert e.1 e.2).entries = m.entries ++ [e] :=
      insertEntry_of_gt fun f hf =>
        (List.pairwise_append.1 h).2.2 f hf e List.mem_cons_self
    rw [List.foldl_cons, ih, hlast, List.append_assoc, List.singleton_append]
    rwa [hlast, List.append_assoc, List.singleton_append]

/-- A map is put together from its entries. -/
theorem ofList_entries (m : PrefixMap) : ofList m.entries = m :=
  ext (entries_foldl_insert empty m.entries m.sorted)

/-- No pitch is bound twice. -/
theorem nodup_pitches (m : PrefixMap) : m.pitches.Nodup :=
  List.pairwise_map.2 (m.sorted.imp UInt8.ne_of_lt)

/-- A pitch has the affix of its entry. -/
theorem mem_entries_iff {m : PrefixMap} {n : UInt8} {a : Affix} :
    (n, a) ∈ m.entries ↔ m.get? n = some a := by
  rw [get?, Option.map_eq_some_iff]
  constructor
  · intro h
    -- What is found has the pitch that was looked for, as only one entry has.
    have hfound : (m.entries.find? (·.1 == n)).isSome :=
      List.find?_isSome.2 ⟨(n, a), h, by simp⟩
    obtain ⟨e, he⟩ := Option.isSome_iff_exists.1 hfound
    have hpitch : e.1 = n := by simpa using List.find?_some he
    have hsame := List.inj_on_of_nodup_map m.nodup_pitches (List.mem_of_find?_eq_some he) h hpitch
    exact ⟨e, he, congrArg Prod.snd hsame⟩
  · rintro ⟨e, he, rfl⟩
    have hpitch : e.1 = n := by simpa using List.find?_some he
    exact hpitch ▸ List.mem_of_find?_eq_some he

/-- Maps that give all pitches the same are equal. -/
theorem ext_get? {m m' : PrefixMap} (h : ∀ n, m.get? n = m'.get? n) : m = m' := by
  have hmem : ∀ e, e ∈ m.entries ↔ e ∈ m'.entries := fun e => by
    rw [mem_entries_iff, mem_entries_iff, h]
  -- Both lists of entries are sorted, so they are equal if they have the same members.
  refine ext (List.Perm.eq_of_pairwise ?_ m.sorted m'.sorted
    ((List.perm_ext_iff_of_nodup m.nodup_pitches.of_map m'.nodup_pitches.of_map).2 hmem))
  exact fun a b _ _ hab hba => absurd (UInt8.lt_trans hab hba) (UInt8.lt_irrefl _)

/-- It does not matter which of two pitches is bound first. -/
theorem insert_comm (m : PrefixMap) {n k : UInt8} (a b : Affix) (h : n ≠ k) :
    (m.insert n a).insert k b = (m.insert k b).insert n a := by
  -- The maps are sorted lists, and what they give a pitch is easier to compare.
  apply ext_get?
  intro i
  simp only [get?_insert]
  split
  next hk => rw [if_neg (hk ▸ h)]
  · rfl

/-- A map is put together from its entries in any arrangement. -/
theorem ofList_of_perm {l : List (UInt8 × Affix)} {m : PrefixMap} (h : l.Perm m.entries) :
    ofList l = m := by
  have hcomm : ∀ x ∈ l, ∀ y ∈ l, ∀ q : PrefixMap,
      (q.insert x.1 x.2).insert y.1 y.2 = (q.insert y.1 y.2).insert x.1 x.2 := by
    intro x hx y hy q
    by_cases hpitch : x.1 = y.1
    · -- Entries of one pitch are one entry.
      rw [List.inj_on_of_nodup_map m.nodup_pitches (h.subset hx) (h.subset hy) hpitch]
    · exact q.insert_comm x.2 y.2 hpitch
  rw [ofList, h.foldl_eq' hcomm, ← ofList, ofList_entries]

/-- Inserting bindings adds none but these. -/
private theorem mem_entries_foldl {m : PrefixMap} {l : List (UInt8 × Affix)} {e : UInt8 × Affix}
    (h : e ∈ (l.foldl (fun m e => m.insert e.1 e.2) m).entries) : e ∈ m.entries ∨ e ∈ l := by
  induction l generalizing m with
  | nil => exact Or.inl h
  | cons d l ih =>
    rcases ih h with hm | hl
    · rcases mem_insertEntry hm with rfl | hm
      · exact Or.inr List.mem_cons_self
      · exact Or.inl hm
    · exact Or.inr (List.mem_cons_of_mem d hl)

/-- The entries of a map are among the bindings that it was made of. -/
theorem mem_of_mem_ofList {l : List (UInt8 × Affix)} {e : UInt8 × Affix}
    (h : e ∈ (ofList l).entries) : e ∈ l :=
  (mem_entries_foldl h).resolve_left List.not_mem_nil

/-! ### Reading a line -/

/-- Read the binding of a line that is not passed over, given its number. -/
def readBinding (o : PrefixMapOptions) (number : Nat) (line : List Char) :
    Except VoicebankError (UInt8 × Affix) :=
  match Text.splitThree o.delimiter line with
  | none => .error (.missingFields number)
  | some (name, before, after) =>
    (PitchName.read o.octaves (String.ofList name)).map fun n =>
      (n, ⟨String.ofList (Text.trim before), String.ofList (Text.trim after)⟩)

/-- A line is passed over, or its binding is put into the map. -/
theorem readLine_eq (o : PrefixMapOptions) (m : PrefixMap) (k : Nat) (line : List Char) :
    readLine o m k line = if isSkipped o.comment line then .ok m
      else (readBinding o k line).map fun e => m.insert e.1 e.2 := by
  rw [readLine, readBinding]
  split
  · rfl
  · cases Text.splitThree o.delimiter line with
    | none => rfl
    | some fields =>
      obtain ⟨name, before, after⟩ := fields
      cases h : PitchName.read o.octaves (String.ofList name) <;> simp only [h] <;> rfl

/-- A line is a binding if it has a pitch and two more fields. -/
theorem readBinding_eq_ok_iff {o : PrefixMapOptions} {k : Nat} {line : List Char}
    {e : UInt8 × Affix} :
    readBinding o k line = .ok e ↔
      ∃ name before after,
        line = name ++ o.delimiter :: before ++ o.delimiter :: after ∧
        o.delimiter ∉ name ∧ o.delimiter ∉ before ∧
        PitchName.read o.octaves (String.ofList name) = .ok e.1 ∧
        e.2 = ⟨String.ofList (Text.trim before), String.ofList (Text.trim after)⟩ := by
  rw [readBinding]
  constructor
  · intro h
    split at h
    · cases h
    next name before after hsplit =>
      obtain ⟨hline, hname, hbefore⟩ := Text.splitThree_eq_some.1 hsplit
      obtain ⟨n, hn, rfl⟩ := map_eq_ok_iff.1 h
      exact ⟨name, before, after, hline, hname, hbefore, hn, rfl⟩
  · rintro ⟨name, before, after, hline, hname, hbefore, hn, haffix⟩
    rw [Text.splitThree_eq_some.2 ⟨hline, hname, hbefore⟩]
    exact map_eq_ok_iff.2 ⟨e.1, hn, by rw [← haffix]⟩

/-- The lines that are not passed over are read one by one, in their order. -/
theorem readLines_eq_mapM (o : PrefixMapOptions) (m : PrefixMap) (n : Nat)
    (ls : List (List Char)) :
    readLines o m n ls =
      ((kept (isSkipped o.comment) n ls).mapM fun p => readBinding o p.2 p.1).map
        (·.foldl (fun m e => m.insert e.1 e.2) m) :=
  numbered_eq_mapM (fun _ _ => rfl) (fun m n line ls => by rw [readLines, readLine_eq]) m n ls

/-! ### Tidy maps -/

/-- A text that trimming leaves as it is, on one line. -/
structure TidyText (s : String) : Prop where
  trimmed : Text.trimmed s = s
  newline : '\n' ∉ s.toList

/-- A binding whose line reads back when it is written with a delimiter. -/
structure TidyBinding (delimiter : Char) (e : UInt8 × Affix) : Prop where
  pitch : e.1.toNat ≤ 127
  before : TidyText e.2.before
  after : TidyText e.2.after
  delimiter : delimiter ∉ e.2.before.toList

/-- A map of tidy bindings. -/
def Tidy (delimiter : Char) (m : PrefixMap) : Prop := ∀ e ∈ m.entries, TidyBinding delimiter e

/-- What is left of a part of a line after trimming is tidy. -/
theorem tidyText_trim {s line : List Char} (hsub : s ⊆ line) (hline : '\n' ∉ line) :
    TidyText (String.ofList (Text.trim s)) where
  trimmed := by rw [Text.trimmed, String.toList_ofList, Text.trim_trim]
  newline := by
    rw [String.toList_ofList]
    exact fun h => hline (hsub (Text.mem_of_mem_trim h))

/-- A binding that was read from a line is tidy. -/
theorem tidy_of_readBinding {o : PrefixMapOptions} {k : Nat} {line : List Char}
    {e : UInt8 × Affix} (h : readBinding o k line = .ok e) (hline : '\n' ∉ line) :
    TidyBinding o.delimiter e := by
  obtain ⟨name, before, after, hcut, -, hbefore, hn, haffix⟩ := readBinding_eq_ok_iff.1 h
  -- The fields are parts of the line, and trimming them adds nothing.
  have hsub : before ⊆ line ∧ after ⊆ line := by
    rw [hcut]
    exact ⟨fun c hc => by simp [hc], fun c hc => by simp [hc]⟩
  refine ⟨PitchName.le_of_read hn, ?_, ?_, ?_⟩
  · rw [haffix]
    exact tidyText_trim hsub.1 hline
  · rw [haffix]
    exact tidyText_trim hsub.2 hline
  · rw [haffix, String.toList_ofList]
    exact fun hc => hbefore (Text.mem_of_mem_trim hc)

/-- A map that was read is tidy. -/
theorem tidy_of_read {o : PrefixMapOptions} {text : String} {m : PrefixMap}
    (h : read o text = .ok m) : m.Tidy o.delimiter := by
  rw [read, readLines_eq_mapM] at h
  obtain ⟨es, hes, rfl⟩ := map_eq_ok_iff.1 h
  -- Every binding of the map comes from a line, which has no newline.
  intro e he
  obtain ⟨p, hp, hbinding⟩ := exists_mem_of_forall₂ (mapM_eq_ok_iff.1 hes) (mem_of_mem_ofList he)
  exact tidy_of_readBinding hbinding (Text.newline_not_mem_of_mem_lines
    (List.fst_mem_of_mem_zipIdx (List.mem_filter.1 hp).1))

end PrefixMap

/-- Options under which the name of a pitch is neither cut nor taken for a comment. -/
structure PrefixMapOptions.Unambiguous (o : PrefixMapOptions) : Prop where
  newline : o.delimiter ≠ '\n'
  carriageReturn : o.delimiter ≠ '\r'
  name : ¬PitchName.IsNameChar o.delimiter
  comment : ∀ c ∈ PitchName.letters, o.comment ≠ some c

namespace PrefixMap

open Traversal

variable {o : PrefixMapOptions}

/-! ### Written lines -/

/-- The line of a binding, without its newline. -/
def renderBinding (o : PrefixMapOptions) (e : UInt8 × Affix) : List Char :=
  PitchName.render o.sharps o.octaves e.1 ++ o.delimiter :: e.2.before.toList
    ++ o.delimiter :: e.2.after.toList

/-- A line starts with the letter of its pitch. -/
theorem renderBinding_eq_cons (o : PrefixMapOptions) (e : UInt8 × Affix) :
    ∃ c r, renderBinding o e = c :: r ∧ c ∈ PitchName.letters := by
  obtain ⟨c, r, hname, hc⟩ := PitchName.render_eq_cons o.sharps o.octaves e.1
  exact ⟨c, _, by rw [renderBinding, hname, List.cons_append, List.cons_append], hc⟩

/-- A written line is not skipped. -/
theorem isSkipped_renderBinding (ho : o.Unambiguous) (e : UInt8 × Affix) :
    isSkipped o.comment (renderBinding o e) = false := by
  obtain ⟨c, r, hline, hc⟩ := renderBinding_eq_cons o e
  -- The letter in front is not trimmed away, and is not the mark of a comment.
  obtain ⟨q, hq⟩ := Text.trim_cons (PitchName.isBlank_of_isNameChar (Or.inl hc)) r
  have hcomment := ho.comment c hc
  rw [isSkipped, hline, hq]
  cases h : o.comment with
  | none => simp
  | some d =>
    rw [h, ne_eq, Option.some.injEq] at hcomment
    simp [Ne.symm hcomment]

/-- A written line is read back. -/
theorem readBinding_renderBinding (ho : o.Unambiguous) (k : Nat) {e : UInt8 × Affix}
    (h : TidyBinding o.delimiter e) : readBinding o k (renderBinding o e) = .ok e := by
  refine readBinding_eq_ok_iff.2 ⟨PitchName.render o.sharps o.octaves e.1, e.2.before.toList,
    e.2.after.toList, rfl, fun hd => ho.name (PitchName.isNameChar_of_mem_render hd),
    h.delimiter, PitchName.read_render o.sharps o.octaves h.pitch, ?_⟩
  show e.2 = ⟨Text.trimmed e.2.before, Text.trimmed e.2.after⟩
  rw [h.before.trimmed, h.after.trimmed]

/-- The line of a tidy binding is one line, whose newline takes nothing with it. -/
theorem renderBinding_isLine (ho : o.Unambiguous) {e : UInt8 × Affix}
    (h : TidyBinding o.delimiter e) :
    '\n' ∉ renderBinding o e ∧ (renderBinding o e).getLast? ≠ some '\r' := by
  -- A newline is blank, and no character of a name is.
  have hname : '\n' ∉ PitchName.render o.sharps o.octaves e.1 := by
    intro hn
    have hblank := PitchName.isBlank_of_isNameChar (PitchName.isNameChar_of_mem_render hn)
    revert hblank
    decide
  constructor
  · simp only [renderBinding, List.mem_append, List.mem_cons, not_or]
    exact ⟨⟨hname, Ne.symm ho.newline, h.before.newline⟩, Ne.symm ho.newline, h.after.newline⟩
  · rw [renderBinding, List.getLast?_append_of_ne_nil _ (List.cons_ne_nil _ _)]
    cases hafter : e.2.after.toList with
    | nil =>
      -- The line ends with a delimiter.
      simpa using ho.carriageReturn
    | cons c r =>
      -- The line ends with a text that was trimmed.
      rw [List.getLast?_cons_cons, ← hafter, ← h.after.trimmed, Text.trimmed,
        String.toList_ofList]
      intro hlast
      have hblank := Text.isBlank_of_getLast?_trim hlast
      revert hblank
      decide

/-! ### Written maps -/

/-- The bindings of a map in the order in which they are written. -/
def inOrder (o : PrefixMapOptions) (m : PrefixMap) : List (UInt8 × Affix) :=
  (m.sortedPitches o).filterMap fun n => (m.get? n).map (n, ·)

/-- Sorting the pitches neither adds nor loses one, whatever the comparator. -/
theorem sortedPitches_perm (o : PrefixMapOptions) (m : PrefixMap) :
    (m.sortedPitches o).Perm m.pitches :=
  List.mergeSort_perm _ _

/-- However the pitches are sorted, every entry is written, and only once. -/
theorem inOrder_perm (o : PrefixMapOptions) (m : PrefixMap) : (m.inOrder o).Perm m.entries := by
  -- Looking each pitch up gives its entry again.
  have hlookup : m.pitches.filterMap (fun n => (m.get? n).map (n, ·)) = m.entries := by
    have hentry : ∀ e ∈ m.entries, (m.get? e.1).map (e.1, ·) = some e := by
      rintro ⟨n, a⟩ he
      rw [mem_entries_iff.1 he, Option.map_some]
    rw [pitches, List.filterMap_map]
    exact (List.filterMap_congr hentry).trans List.filterMap_some
  rw [← hlookup]
  exact (sortedPitches_perm o m).filterMap _

theorem mem_inOrder {m : PrefixMap} {e : UInt8 × Affix} :
    e ∈ m.inOrder o ↔ e ∈ m.entries :=
  (inOrder_perm o m).mem_iff

/-- The written bindings make the map again, in whatever order. -/
theorem ofList_inOrder (o : PrefixMapOptions) (m : PrefixMap) : ofList (m.inOrder o) = m :=
  ofList_of_perm (inOrder_perm o m)

/-- A map is written line by line. -/
theorem render_eq_flatMap (o : PrefixMapOptions) (m : PrefixMap) :
    m.render o = ((m.inOrder o).map (renderBinding o)).flatMap (· ++ ['\n']) := by
  rw [render, inOrder, List.flatMap_map]
  induction m.sortedPitches o with
  | nil => rfl
  | cons n l ih =>
    rw [List.flatMap_cons, List.filterMap_cons, ih]
    -- A pitch that is not bound has no line.
    cases m.get? n <;> rfl

/-- A letter is in front of a written map, which is no mark. -/
theorem head?_render_ne (o : PrefixMapOptions) (m : PrefixMap) :
    (m.render o).head? ≠ some '\uFEFF' := by
  rw [render_eq_flatMap]
  cases m.inOrder o with
  | nil => simp
  | cons e l =>
    obtain ⟨c, r, hline, hc⟩ := renderBinding_eq_cons o e
    rw [List.map_cons, List.flatMap_cons, hline]
    rintro ⟨⟩
    revert hc
    decide

/-- The lines of a written map are those that were written. -/
theorem lines_render (ho : o.Unambiguous) {m : PrefixMap} (h : m.Tidy o.delimiter) :
    Text.lines (Text.dropMark (m.render o)) = (m.inOrder o).map (renderBinding o) := by
  rw [Text.dropMark_eq_self_iff.2 (head?_render_ne o m), render_eq_flatMap]
  apply Text.lines_unlines
  intro line hline
  obtain ⟨e, he, rfl⟩ := List.mem_map.1 hline
  exact renderBinding_isLine ho (h e (mem_inOrder.1 he))

/-- A written map is read back. -/
theorem read_render (ho : o.Unambiguous) {m : PrefixMap} (h : m.Tidy o.delimiter) :
    read o (String.ofList (m.render o)) = .ok m := by
  -- The lines are read one by one, whatever their numbers are.
  have hbindings : List.Forall₂ (fun line e => ∀ k, readBinding o k line = .ok e)
      ((m.inOrder o).map (renderBinding o)) (m.inOrder o) := by
    rw [List.forall₂_map_left_iff, List.forall₂_same]
    exact fun e he k => readBinding_renderBinding ho k (h e (mem_inOrder.1 he))
  rw [read, String.toList_ofList, lines_render ho h, readLines_eq_mapM,
    mapM_kept_of_forall₂ 1 _ hbindings]
  · exact congrArg Except.ok (ofList_inOrder o m)
  · intro line hline
    obtain ⟨e, -, rfl⟩ := List.mem_map.1 hline
    exact isSkipped_renderBinding ho e

/-- Read a text and write what was read. -/
def rewritten (o : PrefixMapOptions) (text : String) : Except VoicebankError String :=
  (read o text).map fun m => String.ofList (m.render o)

/-- The text of a map reads back as the map exactly if every pitch is at most 127, every field is
one line without white space around it, and no text before a lyric has the delimiter. Any map
that was read with the same delimiter is such a map, so writing what was read changes nothing
when it is done again. -/
theorem read_render_iff_tidy (ho : o.Unambiguous) :
    (∀ m : PrefixMap, read o (String.ofList (m.render o)) = .ok m ↔ m.Tidy o.delimiter) ∧
    (∀ (p : PrefixMapOptions) (text : String) (m : PrefixMap), p.delimiter = o.delimiter →
      read p text = .ok m → read o (String.ofList (m.render o)) = .ok m) ∧
    (∀ text, (rewritten o text).bind (rewritten o) = rewritten o text) := by
  refine ⟨fun m => ⟨tidy_of_read, read_render ho⟩, ?_, fun text => ?_⟩
  · intro p text m hp h
    exact read_render ho (hp ▸ tidy_of_read h)
  · cases h : read o text with
    | error e => simp only [rewritten, h]; rfl
    | ok m =>
      have hagain := read_render ho (tidy_of_read h)
      simp only [rewritten, h, Except.map, Except.bind, hagain]

/-- The usual options are unambiguous, and a map with an empty field and a delimiter in its last
field reads back under them. -/
theorem read_render_usual :
    PrefixMapOptions.Unambiguous {} ∧
      read {} (String.ofList (render (empty.insert 60 ⟨"", "high\tC5"⟩) {})) =
        .ok (empty.insert 60 ⟨"", "high\tC5"⟩) := by
  have ho : PrefixMapOptions.Unambiguous {} := by
    refine ⟨by decide, by decide, by unfold PitchName.IsNameChar; decide, ?_⟩
    rintro c hc ⟨⟩
    exact absurd hc (by decide)
  refine ⟨ho, ((read_render_iff_tidy ho).1 _).2 ?_⟩
  intro e he
  rw [List.mem_singleton.1 he]
  exact ⟨by decide, ⟨by decide, by decide⟩, ⟨by decide, by decide⟩, by decide⟩

end PrefixMap

end VocalScore
