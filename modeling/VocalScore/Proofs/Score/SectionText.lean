import Mathlib.Data.List.Basic
import VocalScore.Proofs.Text.Scanning
import VocalScore.Proofs.Traversal
import VocalScore.Score.Section

/-!
# Sections that are written read back

The plain text of a section is its header, then its lines if it is raw, then one line for each
of its keys. Values are free texts: a value may hold `=`, brackets and the signs of a comment, or
be empty, since a line is cut at its first `=` and its key decides what the line is.

## Key results

- `readLine_header`, `readLine_free`, `readLine_keyLine`: what each kind of line does
- `readLines_written`: the lines of a section put the section under way
- `get?_present`: a key of a table with distinct keys has its value, if there is one
- `read_text`: sections that are written read back, with the numbers of their header lines
-/

namespace VocalScore.Section

/-- A text that a line keeps as it stands: no white space around it, and no newline. -/
structure Verbatim (s : List Char) : Prop where
  trim_eq : Text.trim s = s
  newline : '\n' ∉ s

/-- A line that a raw section keeps: it is not empty and opens no bracket. -/
structure IsFreeLine (line : String) : Prop where
  verbatim : Verbatim line.toList
  ne_nil : line.toList ≠ []
  head : line.toList.head? ≠ some '['

/-- The characters that end a key or say that a line has none. -/
def marks : List Char := ['=', '[', ';', '#']

/-- A key that a line can start with. -/
def isKey (key : String) : Bool :=
  key.toList ≠ [] && key.toList.all fun c => !Text.isBlank c && !marks.contains c

/-- The header line of a name. -/
def headerLine (name : String) : List Char := '[' :: name.toList ++ [']']

/-- The line of a key and its value. -/
def keyLine (entry : String × String) : List Char := entry.1.toList ++ '=' :: entry.2.toList

/-- The lines of a section. -/
def written (s : Section) : List (List Char) :=
  headerLine s.name :: (s.body.map String.toList ++ s.entries.map keyLine)

/-- The text of sections. -/
def text (l : List Section) : String :=
  String.ofList ((l.flatMap written).flatMap (· ++ ['\n']))

/-- A section that its lines tell in full: only a raw section has free lines, and only another
one has keys. -/
structure Plain (raw : List String) (s : Section) : Prop where
  name : Verbatim s.name.toList
  entries : ∀ e ∈ s.entries, isKey e.1 = true ∧ Verbatim e.2.toList
  body : ∀ line ∈ s.body, IsFreeLine line
  kind : if raw.contains s.name then s.entries = [] else s.body = []

/-- A section with the number of its header line. -/
def atLine (n : Nat) (s : Section) : Section := { s with line := n }

/-- Sections with the numbers of their header lines, the first of which is `n`. -/
def numbered (n : Nat) : List Section → List Section
  | [] => []
  | s :: l => s.atLine n :: numbered (n + s.written.length) l

/-- The entries of a table whose values may be left out. -/
def present (t : List (String × Option String)) : List (String × String) :=
  t.filterMap fun p => p.2.map (p.1, ·)

/-- A section that is not raw is told in full by its keys. -/
theorem plain_of_not_raw {raw : List String} {name : String} {entries : List (String × String)}
    (hraw : raw.contains name = false) (hname : Verbatim name.toList)
    (hentries : ∀ e ∈ entries, isKey e.1 = true ∧ Verbatim e.2.toList) (line : Nat) :
    (Section.mk name line entries []).Plain raw where
  name := hname
  entries := hentries
  body _ h := absurd h List.not_mem_nil
  kind := by rw [hraw, if_neg Bool.false_ne_true]

/-! ### Characters of lines -/

/-- A text without white space is kept as it stands. -/
theorem verbatim_of_visible {s : List Char} (h : ∀ c ∈ s, Text.isBlank c = false) : Verbatim s where
  trim_eq := Text.trim_eq_self h
  newline hmem := by cases h _ hmem

/-- A text without white space is kept as it is. -/
theorem verbatim_of_all {s : String} (h : s.toList.all (!Text.isBlank ·) = true) :
    Verbatim s.toList :=
  verbatim_of_visible fun _ hc => Text.isBlank_of_mem h hc

/-- A text that is kept has nothing to trim. -/
theorem Verbatim.trimmed_eq {s : String} (h : Verbatim s.toList) : Text.trimmed s = s := by
  rw [Text.trimmed, h.trim_eq, String.ofList_toList]

/-- A text that is kept does not end with white space. -/
theorem Verbatim.isBlank_getLast? {s : List Char} (h : Verbatim s) {c : Char}
    (hc : s.getLast? = some c) : Text.isBlank c = false :=
  Text.isBlank_of_getLast?_trim (by rwa [h.trim_eq])

/-- A line that is kept as it stands does not end with a part of a line end. -/
theorem Verbatim.getLast?_ne {s : List Char} (h : Verbatim s) : s.getLast? ≠ some '\r' := by
  intro hr
  cases h.isBlank_getLast? hr

/-- A key is not empty, and has neither white space nor marks. -/
theorem isKey_iff {key : String} :
    isKey key = true ↔ key.toList ≠ [] ∧ ∀ c ∈ key.toList, Text.isBlank c = false ∧ c ∉ marks := by
  simp [isKey]

/-- A key is the visible start of its line, and no header or comment. -/
theorem exists_of_isKey {key : String} (h : isKey key = true) :
    ∃ c r, key.toList = c :: r ∧ Text.isBlank c = false ∧ c ∉ marks := by
  obtain ⟨hne, hall⟩ := isKey_iff.1 h
  cases hkey : key.toList with
  | nil => exact absurd hkey hne
  | cons c r => exact ⟨c, r, rfl, hall c (hkey ▸ List.mem_cons_self)⟩

/-- A written header is kept as it is. -/
theorem verbatim_headerLine {name : String} (h : Verbatim name.toList) :
    Verbatim (headerLine name) where
  trim_eq := by
    apply Text.trim_eq_self_of_ends
    · -- A header starts and ends with a bracket.
      rintro c ⟨⟩
      decide
    · intro c hc
      rw [headerLine, List.getLast?_concat] at hc
      cases hc
      decide
  newline := by
    rw [headerLine, List.cons_append, List.mem_cons, List.mem_append]
    rintro (hc | hc | hc)
    · revert hc; decide
    · exact h.newline hc
    · revert hc; decide

/-- A written entry is kept as it is. -/
theorem verbatim_keyLine {entry : String × String} (hkey : isKey entry.1 = true)
    (hvalue : Verbatim entry.2.toList) : Verbatim (keyLine entry) where
  trim_eq := by
    apply Text.trim_eq_self_of_ends
    · obtain ⟨c, r, hcons, hc, -⟩ := exists_of_isKey hkey
      rw [keyLine, hcons]
      rintro d ⟨⟩
      exact hc
    · -- The last character is that of the value, or the sign in front of an empty one.
      intro c hc
      rw [keyLine, List.getLast?_append, List.getLast?_cons, Option.some_or] at hc
      cases hlast : entry.2.toList.getLast? with
      | none =>
        rw [hlast] at hc
        cases hc
        decide
      | some d =>
        rw [hlast] at hc
        cases hc
        exact hvalue.isBlank_getLast? hlast
  newline := by
    rw [keyLine, List.mem_append, List.mem_cons]
    rintro (hc | hc | hc)
    · cases ((isKey_iff.1 hkey).2 _ hc).1
    · revert hc; decide
    · exact hvalue.newline hc

/-! ### One line -/

variable {raw : List String} (p : Progress) (n : Nat)

/-- A header completes the section under way. -/
theorem readLine_header {name : String} (h : Verbatim name.toList) :
    readLine raw p n (headerLine name) = .ok ⟨p.done ++ [p.current], empty name n⟩ := by
  have hheader : readHeader (headerLine name) = .ok (.header name) := by
    rw [readHeader, (verbatim_headerLine h).trim_eq, headerLine, List.cons_append]
    simp only [List.getLast?_concat, if_true, List.dropLast_concat, h.trim_eq, String.ofList_toList]
  rw [readLine, hheader]
  rfl

/-- A line that does not start with a bracket is no header. -/
theorem readHeader_other {line : List Char} (h : Verbatim line) (hhead : line.head? ≠ some '[') :
    readHeader line = .ok (.other line) := by
  rw [readHeader, h.trim_eq]
  split
  · exact absurd rfl hhead
  · rfl

/-- A line that is no header goes to the section under way. -/
theorem readLine_other {line : List Char} {s : Section} (h : Verbatim line)
    (hhead : line.head? ≠ some '[') (hadd : addLine raw p.current line line = .ok s) :
    readLine raw p n line = .ok { p with current := s } := by
  rw [readLine, readHeader_other h hhead]
  simp only [bind, Except.bind, hadd]
  rfl

/-- A raw section keeps a line. -/
theorem readLine_free {line : String} (hraw : raw.contains p.current.name = true)
    (h : IsFreeLine line) :
    readLine raw p n line.toList =
      .ok { p with current := { p.current with body := p.current.body ++ [line] } } := by
  apply readLine_other p n h.verbatim h.head
  have hend : Text.trimEnd line.toList = line.toList :=
    Text.trimEnd_eq_self fun c hc => h.verbatim.isBlank_getLast? hc
  rw [addLine, if_pos hraw, if_neg h.ne_nil, hend, String.ofList_toList]

/-- The line of a key adds the key with its value. -/
theorem readLine_keyLine {entry : String × String} (hraw : raw.contains p.current.name = false)
    (hkey : isKey entry.1 = true) (hvalue : Verbatim entry.2.toList) :
    readLine raw p n (keyLine entry) =
      .ok { p with current := { p.current with entries := p.current.entries ++ [entry] } } := by
  -- The line starts with the key, whose first character rules out a header and a comment.
  obtain ⟨c, r, hcons, -, hmarks⟩ := exists_of_isKey hkey
  have hhead : (keyLine entry).head? = some c := by rw [keyLine, hcons]; rfl
  simp only [marks, List.mem_cons, not_or] at hmarks
  apply readLine_other p n (verbatim_keyLine hkey hvalue)
  · rw [hhead, ne_eq, Option.some.injEq]
    exact hmarks.2.1
  · -- No `=` stands in the key, so the first one ends it, whatever the value holds.
    have hsplit : Text.splitOnce '=' (keyLine entry) = some (entry.1.toList, entry.2.toList) := by
      apply Text.splitOnce_append
      intro hmem
      exact ((isKey_iff.1 hkey).2 _ hmem).2 List.mem_cons_self
    have hne : ¬(keyLine entry = [] ∨ (keyLine entry).head? = some ';' ∨
        (keyLine entry).head? = some '#') := by
      rw [hhead, Option.some.injEq, Option.some.injEq]
      rintro (hnil | hc | hc)
      · rw [hnil] at hhead
        cases hhead
      · exact hmarks.2.2.1 hc
      · exact hmarks.2.2.2.1 hc
    have htrim : Text.trim entry.1.toList = entry.1.toList :=
      Text.trim_eq_self fun c hc => ((isKey_iff.1 hkey).2 c hc).1
    rw [addLine, hraw, if_neg Bool.false_ne_true, if_neg hne, hsplit]
    simp only [htrim, hvalue.trim_eq, String.ofList_toList]

/-! ### Whole sections -/

/-- Lines that each put one thing at the end of the section under way, while `P` holds of it. -/
theorem readLines_map {α : Type} {line : α → List Char} (put : Section → List α → Section)
    (P : Section → Prop) (hnil : ∀ s, put s [] = s)
    (hcons : ∀ s a l, put (put s [a]) l = put s (a :: l)) (hput : ∀ s l, P s → P (put s l))
    {l : List α}
    (hline : ∀ a ∈ l, ∀ p n, P p.current →
      readLine raw p n (line a) = .ok { p with current := put p.current [a] })
    (hp : P p.current) :
    readLines raw p n (l.map line) = .ok { p with current := put p.current l } := by
  -- The section under way grows with each line, so the induction is for every state.
  induction l generalizing p n with
  | nil => rw [hnil]; rfl
  | cons a l ih =>
    rw [List.map_cons, readLines, hline a List.mem_cons_self p n hp]
    show readLines raw { p with current := put p.current [a] } (n + 1) (l.map line) = _
    rw [ih _ _ (fun b hb => hline b (List.mem_cons_of_mem a hb)) (hput _ _ hp), hcons]

/-- The lines of a raw section are put to its body. -/
theorem readLines_body {body : List String} (hraw : raw.contains p.current.name = true)
    (h : ∀ line ∈ body, IsFreeLine line) :
    readLines raw p n (body.map String.toList) =
      .ok { p with current := { p.current with body := p.current.body ++ body } } := by
  refine readLines_map p n (fun s l => { s with body := s.body ++ l })
    (fun s => raw.contains s.name = true) ?_ ?_ (fun _ _ hs => hs) ?_ hraw
  · intro s
    rw [List.append_nil]
  · intro s a l
    rw [List.append_assoc, List.singleton_append]
  · exact fun line hline q k hq => readLine_free q k hq (h line hline)

/-- The written entries of a section are put to its entries. -/
theorem readLines_entries {entries : List (String × String)}
    (hraw : raw.contains p.current.name = false)
    (h : ∀ e ∈ entries, isKey e.1 = true ∧ Verbatim e.2.toList) :
    readLines raw p n (entries.map keyLine) =
      .ok { p with current := { p.current with entries := p.current.entries ++ entries } } := by
  refine readLines_map p n (fun s l => { s with entries := s.entries ++ l })
    (fun s => raw.contains s.name = false) ?_ ?_ (fun _ _ hs => hs) ?_ hraw
  · intro s
    rw [List.append_nil]
  · intro s a l
    rw [List.append_assoc, List.singleton_append]
  · exact fun e he q k hq => readLine_keyLine q k hq (h e he).1 (h e he).2

/-- The lines of a section put the section under way, with the number of its header line. -/
theorem readLines_written {s : Section} (h : s.Plain raw) :
    readLines raw p n s.written = .ok ⟨p.done ++ [p.current], s.atLine n⟩ := by
  obtain ⟨name, line, entries, body⟩ := s
  rw [written, readLines, readLine_header p n h.name]
  show readLines raw ⟨p.done ++ [p.current], empty name n⟩ (n + 1) _ = _
  -- After the header come free lines or keys, never both.
  have hkind := h.kind
  split at hkind
  next hraw =>
    subst hkind
    rw [List.map_nil, List.append_nil, readLines_body _ _ hraw h.body]
    rfl
  next hraw =>
    subst hkind
    rw [List.map_nil, List.nil_append,
      readLines_entries _ _ (Bool.not_eq_true _ ▸ hraw) h.entries]
    rfl

/-- The lines of sections put the last one under way, and complete the others. -/
theorem readLines_flatMap_written {l : List Section} (h : ∀ s ∈ l, s.Plain raw) :
    (readLines raw p n (l.flatMap written)).map Progress.sections =
      .ok (p.sections ++ numbered n l) := by
  -- Each section is read after whatever came before it, at any line.
  induction l generalizing p n with
  | nil =>
    rw [numbered, List.append_nil]
    rfl
  | cons s l ih =>
    rw [List.flatMap_cons, readLines_append, readLines_written p n (h s List.mem_cons_self)]
    refine (ih _ _ fun t ht => h t (List.mem_cons_of_mem s ht)).trans ?_
    rw [numbered, Progress.sections, Progress.sections, List.append_assoc, List.singleton_append]

/-! ### Values of keys -/

/-- An entry counts for its key only if no later one does. -/
theorem get?_cons (name : String) (line : Nat) (e : String × String)
    (entries : List (String × String)) (body : List String) (key : String) :
    (Section.mk name line (e :: entries) body).get? key =
      ((Section.mk name line entries body).get? key).or
        (if e.1 = key then some e.2 else none) := by
  simp only [get?, List.reverse_cons, List.find?_append, Option.map_or]
  congr 1
  by_cases he : e.1 = key
  · simp [he]
  · simp [he]

/-- An entry that is there is found by its key. -/
theorem get?_present {t : List (String × Option String)} (h : (t.map Prod.fst).Nodup)
    (name : String) (line : Nat) (body : List String) (key : String) :
    (Section.mk name line (present t) body).get? key = (t.lookup key).join := by
  induction t with
  | nil => rfl
  | cons p t ih =>
    obtain ⟨k, v⟩ := p
    rw [List.map_cons, List.nodup_cons] at h
    have ih := ih h.2
    by_cases hk : key = k
    · subst hk
      -- No later entry has the key, so the first one decides.
      have hnone : t.lookup key = none := by
        rw [List.lookup_eq_none_iff]
        intro p hp
        rw [bne_iff_ne]
        intro hkey
        exact h.1 (List.mem_map.2 ⟨p, hp, hkey.symm⟩)
      rw [hnone] at ih
      rw [List.lookup_cons_self]
      -- A key without a value is not written, and is missing from the section.
      cases v with
      | none => exact ih
      | some w =>
        show (Section.mk name line ((key, w) :: present t) body).get? key = some w
        rw [get?_cons, ih, if_pos rfl]
        rfl
    · rw [List.lookup_cons, beq_eq_false_iff_ne.2 hk]
      cases v with
      | none => exact ih
      | some w =>
        show (Section.mk name line ((k, w) :: present t) body).get? key = (t.lookup key).join
        rw [get?_cons, ih, if_neg (Ne.symm hk), Option.or_none]

/-! ### Texts -/

/-- Each written line of a plain section is kept as it is. -/
theorem Plain.verbatim_of_mem {s : Section} (h : s.Plain raw) {line : List Char}
    (hline : line ∈ s.written) : Verbatim line := by
  rcases List.mem_cons.1 hline with rfl | hline
  · exact verbatim_headerLine h.name
  · rcases List.mem_append.1 hline with hline | hline
    · obtain ⟨t, ht, rfl⟩ := List.mem_map.1 hline
      exact (h.body t ht).verbatim
    · obtain ⟨e, he, rfl⟩ := List.mem_map.1 hline
      exact verbatim_keyLine (h.entries e he).1 (h.entries e he).2

/-- No text of sections starts with a byte order mark. -/
theorem dropMark_text (l : List Section) : Text.dropMark (text l).toList = (text l).toList := by
  rw [Text.dropMark_eq_self_iff, text, String.toList_ofList]
  cases l with
  | nil => decide
  | cons s l =>
    rintro ⟨⟩

/-- Sections that are written read back, after a leading section without lines. -/
theorem read_text {l : List Section} (h : ∀ s ∈ l, s.Plain raw) :
    read raw (text l) = .ok (empty headName 0 :: numbered 1 l) := by
  have hlines : Text.lines (text l).toList = l.flatMap written := by
    rw [text, String.toList_ofList]
    apply Text.lines_unlines
    intro line hline
    obtain ⟨s, hs, hline⟩ := List.mem_flatMap.1 hline
    -- A written line has neither a newline nor a carriage return at its end.
    have hverbatim := (h s hs).verbatim_of_mem hline
    exact ⟨hverbatim.newline, hverbatim.getLast?_ne⟩
  rw [read, dropMark_text, hlines, readLines_flatMap_written _ _ h]
  rfl

end VocalScore.Section
