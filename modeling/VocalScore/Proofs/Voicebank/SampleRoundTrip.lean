import VocalScore.Proofs.Voicebank.SampleLine

/-!
# When the text of a sample table reads back

The writer puts names down as they are, and the reader cuts a text at newlines, `=` and commas,
drops a byte order mark and passes over comments. A table comes back exactly if none of these
touches its names.

## Key results

- `separate_of_readLines`: whatever is read has names that can be written
- `lines_render`: the lines of a written table are the lines of its entries, but for a mark
- `read_render_iff_separable`: the exact condition, and what the numbers come back as
-/

namespace VocalScore

namespace SampleEntry

/-- The names of an entry have no separator of their own. -/
structure Separate (e : SampleEntry) : Prop where
  equals : '=' ∉ e.filename.toList
  filename : '\n' ∉ e.filename.toList
  comma : ',' ∉ e.aliasName.toList
  aliasName : '\n' ∉ e.aliasName.toList

/-- The names of an entry that was read are apart from the delimiters. -/
theorem separate_of_readLine {k : Nat} {line : List Char} {e : SampleEntry}
    (h : readLine k line = .ok e) (hline : '\n' ∉ line) : e.Separate := by
  obtain ⟨name, values, a, raws, rfl, hname, hfields, hf, ha, -⟩ := readLine_eq_ok_iff.1 h
  -- The file name ends at the first `=`, the alias at the first comma after it.
  have hmem : a ∈ Text.splitOn ',' values := hfields ▸ List.mem_cons_self
  rw [List.mem_append, List.mem_cons, not_or, not_or] at hline
  refine ⟨?_, ?_, ?_, ?_⟩
  · rwa [hf, String.toList_ofList]
  · rw [hf, String.toList_ofList]
    exact hline.1
  · rw [ha, String.toList_ofList]
    exact Text.not_mem_of_mem_splitOn hmem
  · rw [ha, String.toList_ofList]
    exact fun h => hline.2.2 (Text.mem_of_mem_splitOn hmem h)

/-- The two names of an entry. -/
def names (e : SampleEntry) : String × String := (e.filename, e.aliasName)

theorem Separate.of_names {e f : SampleEntry} (h : e.Separate) (hn : f.names = e.names) :
    f.Separate := by
  obtain ⟨hf, ha⟩ := Prod.mk.inj hn
  exact ⟨hf ▸ h.equals, hf ▸ h.filename, ha ▸ h.comma, ha ▸ h.aliasName⟩

theorem ReadsBack.names_eq {o : SampleTableOptions} {e f : SampleEntry} (h : ReadsBack o e f) :
    f.names = e.names := by
  rw [names, h.filename, h.aliasName, names]

/-- An entry without a mark at the front of its file name. -/
def unmarked (e : SampleEntry) : SampleEntry :=
  { e with filename := String.ofList (Text.dropMark e.filename.toList) }

/-- A mark in front of a written line is that of the file name. -/
theorem renderLine_unmarked (o : SampleTableOptions) (e : SampleEntry) (s : List Char) :
    Text.dropMark (e.renderLine o ++ s) = e.unmarked.renderLine o ++ s := by
  -- The mark is in the file name or nowhere, since `=` follows the file name.
  have hdrop : ∀ p q : List Char,
      Text.dropMark (p ++ '=' :: q) = Text.dropMark p ++ '=' :: q := by
    intro p q
    cases p with
    | nil => rfl
    | cons c r =>
      rw [List.cons_append, Text.dropMark, Text.dropMark]
      split <;> rfl
  simp only [renderLine, unmarked, numbers, String.toList_ofList, List.append_assoc,
    List.cons_append, hdrop]

/-- Without its mark a file name is apart from the delimiters as before. -/
theorem Separate.unmarked {e : SampleEntry} (h : e.Separate) : e.unmarked.Separate := by
  have hsub : ∀ c, c ∈ e.unmarked.filename.toList → c ∈ e.filename.toList := by
    intro c hc
    rw [SampleEntry.unmarked, String.toList_ofList] at hc
    exact Text.mem_of_mem_dropMark hc
  exact ⟨fun hc => h.equals (hsub _ hc), fun hc => h.filename (hsub _ hc), h.comma, h.aliasName⟩

end SampleEntry

namespace SampleTable

open Traversal SampleEntry

/-- When a table can be written so that it reads back. -/
structure Separable (o : SampleTableOptions) (l : List SampleEntry) : Prop where
  names : ∀ e ∈ l, e.Separate
  mark : ∀ e, l.head? = some e → e.filename.toList.head? ≠ some '\uFEFF'
  comment : ∀ e ∈ l, ∀ c, o.comment = some c → (Text.trimStart (e.renderLine o)).head? ≠ some c

/-- A list without a mark at the front of its first file name. -/
def unmarkFirst : List SampleEntry → List SampleEntry
  | [] => []
  | e :: l => e.unmarked :: l

theorem separate_unmarkFirst {l : List SampleEntry} (h : ∀ e ∈ l, e.Separate) :
    ∀ e ∈ unmarkFirst l, e.Separate := by
  cases l with
  | nil => exact h
  | cons d l =>
    intro e he
    rcases List.mem_cons.1 he with rfl | he
    · exact (h d List.mem_cons_self).unmarked
    · exact h e (List.mem_cons_of_mem d he)

/-- The lines of a written table are the lines of its entries; a mark at the very front of the
text is dropped. -/
theorem lines_render (o : SampleTableOptions) (t : SampleTable)
    (h : ∀ e ∈ t.toList, e.Separate) :
    Text.lines (Text.dropMark (t.render o)) = (unmarkFirst t.toList).map (renderLine o) := by
  have hmark : Text.dropMark (t.render o) =
      ((unmarkFirst t.toList).map (renderLine o)).flatMap (· ++ ['\n']) := by
    rw [render, List.flatMap_map]
    cases t.toList with
    | nil => rfl
    | cons e l =>
      rw [List.flatMap_cons, List.append_assoc, renderLine_unmarked, ← List.append_assoc]
      rfl
  -- Only the first line can lose a mark.
  rw [hmark]
  apply Text.lines_unlines
  intro line hline
  obtain ⟨e, he, rfl⟩ := List.mem_map.1 hline
  have hsep := separate_unmarkFirst h e he
  exact ⟨newline_not_mem_renderLine hsep.filename hsep.aliasName, getLast?_renderLine_ne o e⟩

/-- The line of an entry is passed over exactly if it looks like a comment. -/
theorem isSkipped_renderLine (o : SampleTableOptions) (e : SampleEntry) :
    isSkipped o.comment (e.renderLine o) = false ↔
      ∀ c, o.comment = some c → (Text.trimStart (e.renderLine o)).head? ≠ some c := by
  -- The line has `=`, so it is not blank.
  have hne : Text.trimStart (e.renderLine o) ≠ [] := by
    rw [ne_eq, ← Text.all_isBlank_iff_trimStart, List.all_eq_true]
    intro hall
    have hmem : '=' ∈ e.renderLine o := by simp [renderLine]
    exact absurd (hall '=' hmem) (by decide)
  rw [isSkipped, decide_eq_false hne, Bool.false_or]
  cases o.comment with
  | none => simp only [Option.any_none, reduceCtorEq, false_implies, implies_true]
  | some d =>
    simp only [Option.any_some, beq_eq_false_iff_ne, ne_eq, Option.some.injEq, forall_eq']

/-- What was read from lines has one entry for each line that was not passed over. -/
theorem forall₂_of_readLines {o : SampleTableOptions} {n : Nat} {ls : List (List Char)}
    {u : SampleTable} (h : readLines o empty n ls = .ok u) :
    List.Forall₂ (fun p e => SampleEntry.readLine p.2 p.1 = .ok e)
      (kept (isSkipped o.comment) n ls) u.toList := by
  rw [readLines_eq_mapM] at h
  obtain ⟨es, hes, rfl⟩ := map_eq_ok_iff.1 h
  rw [toList_foldl_push, toList_empty, List.nil_append]
  exact mapM_eq_ok_iff.1 hes

/-- Whatever is read from lines without newlines has names that can be written. -/
theorem separate_of_readLines {o : SampleTableOptions} {n : Nat} {ls : List (List Char)}
    {u : SampleTable} (h : readLines o empty n ls = .ok u) (hls : ∀ l ∈ ls, '\n' ∉ l) :
    ∀ e ∈ u.toList, e.Separate := by
  intro e he
  obtain ⟨p, hp, hread⟩ := exists_mem_of_forall₂ (forall₂_of_readLines h) he
  exact separate_of_readLine hread (hls p.1 (List.fst_mem_of_mem_zipIdx (List.mem_filter.1 hp).1))

/-- A written line is read back with its names. -/
theorem names_of_readLine_renderLine {o : SampleTableOptions} {k : Nat} {e f : SampleEntry}
    (he : e.Separate) (h : SampleEntry.readLine k (e.renderLine o) = .ok f) :
    f.names = e.names := by
  -- The line is read as some entry with the names of `e`, and as one entry only.
  obtain ⟨g, hg, -⟩ := exists_readsBack o e
  rw [readLine_renderLine k he.equals he.comma hg] at h
  rw [← Except.ok.inj h, hg.names_eq]

/-- Without a mark on the first file name nothing changes. -/
theorem unmarkFirst_eq_self {l : List SampleEntry}
    (h : ∀ e, l.head? = some e → e.filename.toList.head? ≠ some '\uFEFF') : unmarkFirst l = l := by
  cases l with
  | nil => rfl
  | cons e l =>
    rw [unmarkFirst, SampleEntry.unmarked, Text.dropMark_eq_self_iff.2 (h e rfl),
      String.ofList_toList]

/-- If the names do not change, the first file name has no mark. -/
theorem head_ne_of_unmarkFirst {l : List SampleEntry}
    (h : (unmarkFirst l).map SampleEntry.names = l.map SampleEntry.names) :
    ∀ e, l.head? = some e → e.filename.toList.head? ≠ some '\uFEFF' := by
  intro e he
  cases l with
  | nil => cases he
  | cons d l =>
    cases he
    have hname : e.unmarked.filename = e.filename :=
      congrArg Prod.fst (List.cons.inj h).1
    rw [SampleEntry.unmarked, ← String.toList_inj, String.toList_ofList] at hname
    exact Text.dropMark_eq_self_iff.1 hname

/-- If as many entries are read as there are lines, no line was passed over. -/
theorem forall₂_of_length_eq {o : SampleTableOptions} {n : Nat} {ls : List (List Char)}
    {u : SampleTable} (h : readLines o empty n ls = .ok u) (hlen : u.toList.length = ls.length) :
    (∀ line ∈ ls, isSkipped o.comment line = false) ∧
      List.Forall₂ (fun line e => ∃ k, SampleEntry.readLine k line = .ok e) ls u.toList := by
  have hread := forall₂_of_readLines h
  -- A filter that keeps the length keeps everything.
  have hall : kept (isSkipped o.comment) n ls = ls.zipIdx n := by
    apply List.filter_eq_self.2
    apply List.length_filter_eq_length_iff.1
    rw [List.length_zipIdx, ← hlen]
    exact hread.length_eq
  rw [hall] at hread
  exact ⟨kept_eq_zipIdx_iff.1 hall, forall₂_of_zipIdx hread⟩

/-- If no line is passed over, the lines of entries are read as what the entries come back as. -/
theorem readLines_map_renderLine {o : SampleTableOptions} {l fs : List SampleEntry} (n : Nat)
    (hsep : ∀ e ∈ l, e.Separate) (hskip : ∀ e ∈ l, isSkipped o.comment (e.renderLine o) = false)
    (h : List.Forall₂ (ReadsBack o) l fs) :
    ∃ u, readLines o empty n (l.map (renderLine o)) = .ok u ∧ u.toList = fs := by
  refine ⟨fs.foldl push empty, ?_, ?_⟩
  · rw [readLines_eq_mapM, mapM_kept_of_forall₂ n _ _]
    · rfl
    · intro line hline
      obtain ⟨e, he, rfl⟩ := List.mem_map.1 hline
      exact hskip e he
    · rw [List.forall₂_map_left_iff]
      refine ((List.forall₂_and_left _ _).2 ⟨hsep, h⟩).imp ?_
      rintro e f ⟨he, hf⟩ k
      exact readLine_renderLine k he.equals he.comma hf
  · rw [toList_foldl_push, toList_empty, List.nil_append]

/-- A table that comes back with its names was separable. -/
theorem separable_of_read {o : SampleTableOptions} {t u : SampleTable}
    (h : read o (String.ofList (t.render o)) = .ok u)
    (hnames : u.toList.map SampleEntry.names = t.toList.map SampleEntry.names) :
    Separable o t.toList := by
  rw [read, String.toList_ofList] at h
  -- The reader gives separate names only, and these are the names of the table.
  have hread := separate_of_readLines h fun line => Text.newline_not_mem_of_mem_lines
  have hsep : ∀ e ∈ t.toList, e.Separate := by
    intro e he
    have hmem : e.names ∈ u.toList.map SampleEntry.names :=
      hnames ▸ List.mem_map_of_mem he
    obtain ⟨f, hf, hfe⟩ := List.mem_map.1 hmem
    exact (hread f hf).of_names hfe.symm
  rw [lines_render o t hsep] at h
  have hlen : u.toList.length = ((unmarkFirst t.toList).map (renderLine o)).length := by
    have hfirst : (unmarkFirst t.toList).length = t.toList.length := by
      cases t.toList <;> rfl
    rw [List.length_map, hfirst, ← List.length_map SampleEntry.names, hnames, List.length_map]
  obtain ⟨hskip, hlines⟩ := forall₂_of_length_eq h hlen
  -- Each line gave an entry with the names that were written, so no mark was dropped.
  have hunmarked : (unmarkFirst t.toList).map SampleEntry.names
      = t.toList.map SampleEntry.names := by
    rw [← hnames]
    symm
    apply map_eq_of_forall₂
    rw [List.forall₂_map_left_iff] at hlines
    refine ((List.forall₂_and_left _ _).2 ⟨separate_unmarkFirst hsep, hlines⟩).imp ?_
    rintro e f ⟨he, k, hk⟩
    exact names_of_readLine_renderLine he hk
  have hmark := head_ne_of_unmarkFirst hunmarked
  rw [unmarkFirst_eq_self hmark] at hskip
  exact ⟨hsep, hmark, fun e he =>
    (isSkipped_renderLine o e).1 (hskip _ (List.mem_map_of_mem he))⟩

/-- A separable table comes back as what its entries come back as. -/
theorem read_render_of_separable {o : SampleTableOptions} {t : SampleTable}
    {fs : List SampleEntry} (h : Separable o t.toList)
    (hfs : List.Forall₂ (ReadsBack o) t.toList fs) :
    ∃ u, read o (String.ofList (t.render o)) = .ok u ∧ u.toList = fs := by
  rw [read, String.toList_ofList, lines_render o t h.names, unmarkFirst_eq_self h.mark]
  exact readLines_map_renderLine 1 h.names
    (fun e he => (isSkipped_renderLine o e).2 (h.comment e he)) hfs

/-- The text of a table reads back with the same names in the same order exactly if no file name
has `=` or a newline, no alias a comma or a newline, the first file name no mark in front, and no
line looks like a comment. Every number then comes back as its text reads, and the table as
itself if places are not fixed. -/
theorem read_render_iff_separable (o : SampleTableOptions) (t : SampleTable) :
    ((∃ u, read o (String.ofList (t.render o)) = .ok u ∧
        u.toList.map SampleEntry.names = t.toList.map SampleEntry.names) ↔
      Separable o t.toList) ∧
    (Separable o t.toList →
      ∃ u, read o (String.ofList (t.render o)) = .ok u ∧
        List.Forall₂ (ReadsBack o) t.toList u.toList ∧ (o.places = none → u = t)) := by
  -- What every entry comes back as.
  choose f hf hself using exists_readsBack o
  have hback : List.Forall₂ (ReadsBack o) t.toList (t.toList.map f) := by
    rw [List.forall₂_map_right_iff, List.forall₂_same]
    exact fun e _ => hf e
  refine ⟨⟨?_, fun h => ?_⟩, fun h => ?_⟩
  · rintro ⟨u, hu, hnames⟩
    exact separable_of_read hu hnames
  · obtain ⟨u, hu, hlist⟩ := read_render_of_separable h hback
    refine ⟨u, hu, ?_⟩
    rw [hlist]
    exact map_eq_of_forall₂ (hback.imp fun e f hef => hef.names_eq)
  · obtain ⟨u, hu, hlist⟩ := read_render_of_separable h hback
    refine ⟨u, hu, by rwa [hlist], fun hplaces => ?_⟩
    apply SampleTable.ext
    rw [hlist, List.map_congr_left fun e _ => hself e hplaces, List.map_id']

end SampleTable

end VocalScore
