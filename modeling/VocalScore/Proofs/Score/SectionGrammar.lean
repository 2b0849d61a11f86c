import VocalScore.Proofs.Score.SectionLines
import VocalScore.Proofs.Text.Scanning

/-!
# The grammar of sections

What lines may stand in a text of sections, and which sections they make. A line that opens a
bracket has to be a header; any other line belongs to the section of the last header before it,
whose name says whether lines have to have a key.

## Key results

- `readLine_eq_error_iff` / `reads_of_readLine`: when one line is the fault of a text, and what it
  does to the sections if not
- `readLines_eq_error_iff`: the fault of a text is its first faulty line
- `sections_of_readLines`: the sections of a text are its blocks
- `readLines_after`: lines are read alike after any sections and with any numbers
- `get?_ofLines`: the value of a key is that of its last line
- `read_grammar`: all of this for the text as a whole
-/

namespace VocalScore.Section

open Traversal

/-! ### Lines -/

/-- The lines of a text of sections; a byte order mark at the front does not count. -/
def textLines (text : String) : List (List Char) := Text.lines (Text.dropMark text.toList)

/-- Whether a line opens a bracket, after white space. -/
def opensBracket (line : List Char) : Bool := (Text.trim line).head? == some '['

/-- The name on a header line: the text between its brackets, trimmed. -/
def headerName? (line : List Char) : Option String :=
  match Text.trim line with
  | '[' :: r => if r.getLast? = some ']' then some (String.ofList (Text.trim r.dropLast)) else none
  | _ => none

/-- Whether a line has to have a key, outside of raw sections: it is not blank, no comment and
opens no bracket. -/
def needsKey (line : List Char) : Bool :=
  (Text.trim line).head?.any fun c => c ∉ ['[', ';', '#']

/-- The key and the value of a line: what stands before and after its first `=`, trimmed. -/
def entry? (line : List Char) : Option (String × String) :=
  if needsKey line then
    (Text.splitOnce '=' line).map fun (key, value) =>
      (String.ofList (Text.trim key), String.ofList (Text.trim value))
  else none

/-- A line of a raw section, unless it is blank: only white space at its end is dropped. -/
def freeText? (line : List Char) : Option String :=
  if Text.trim line = [] then none else some (String.ofList (Text.trimEnd line))

/-- The name of the section that a line belongs to, after some lines that follow the start of the
section `name`. -/
def nameAfter (name : String) (before : List (List Char)) : String :=
  (before.filterMap headerName?).getLast?.getD name

/-- What is wrong with a line of a section. -/
inductive Faulty (raw : List String) (name : String) (line : List Char) : LineFault → Prop
  | unterminated (hopens : opensBracket line = true) (h : headerName? line = none) :
      Faulty raw name line (.unterminatedHeader (String.ofList (Text.trim line)))
  | missing (hraw : name ∉ raw) (hkey : needsKey line = true) (h : '=' ∉ line) :
      Faulty raw name line (.missingDelimiter (String.ofList (Text.trim line)))

/-- The first line with a fault among lines of which the first has the number `n`. -/
def FirstFaulty (raw : List String) (name : String) (n : Nat) (ls : List (List Char))
    (m : Malformed) : Prop :=
  ∃ before line after, ls = before ++ line :: after ∧
    (∀ b l a, before = b ++ l :: a → ∀ fault, ¬Faulty raw (nameAfter name b) l fault) ∧
    Faulty raw (nameAfter name before) line m.fault ∧ m.line = n + before.length

/-! ### Sections -/

/-- The section of a name and a line number that lines without headers make. -/
def ofLines (raw : List String) (name : String) (n : Nat) (ls : List (List Char)) : Section :=
  if raw.contains name then ⟨name, n, [], ls.filterMap freeText?⟩
  else ⟨name, n, ls.filterMap entry?, []⟩

/-- A header line with its name, and the lines up to the next header. -/
structure Block where
  header : List Char
  name : String
  body : List (List Char)

/-- The lines of a block. -/
def Block.lines (b : Block) : List (List Char) := b.header :: b.body

/-- The sections of blocks, the first of which starts on the line with the number `n`. -/
def ofBlocks (raw : List String) : Nat → List Block → List Section
  | _, [] => []
  | n, b :: blocks => ofLines raw b.name n b.body :: ofBlocks raw (n + b.lines.length) blocks

/-- Lines are those before the first header, then blocks. -/
structure Splits (ls head : List (List Char)) (blocks : List Block) : Prop where
  eq : ls = head ++ blocks.flatMap Block.lines
  head : ∀ l ∈ head, opensBracket l = false
  header : ∀ b ∈ blocks, headerName? b.header = some b.name
  body : ∀ b ∈ blocks, ∀ l ∈ b.body, opensBracket l = false

/-- A section that starts some lines later. -/
def moved (k : Nat) (s : Section) : Section := { s with line := s.line + k }

/-- A fault some lines later. -/
def movedFault (k : Nat) (m : Malformed) : Malformed := { m with line := m.line + k }

/-! ### One line -/

/-- A header is a line in brackets, white space aside; its name is what they hold, without the white
space around it. -/
theorem headerName?_eq_some_iff {line : List Char} {name : String} :
    headerName? line = some name ↔
      ∃ inner, Text.trim line = '[' :: (inner ++ [']']) ∧
        name = String.ofList (Text.trim inner) := by
  rw [headerName?]
  constructor
  · -- The trimmed line has to start and to end with a bracket.
    intro h
    split at h
    next r hr =>
      split at h
      next hlast =>
        obtain ⟨inner, rfl⟩ := List.getLast?_eq_some_iff.1 hlast
        rw [List.dropLast_concat, Option.some.injEq] at h
        exact ⟨inner, hr, h.symm⟩
      · cases h
    · cases h
  · rintro ⟨inner, htrim, rfl⟩
    rw [htrim]
    simp only [List.getLast?_concat, if_true, List.dropLast_concat]

/-- A line opens a bracket if that is its first character that is not blank. -/
theorem opensBracket_iff {line : List Char} :
    opensBracket line = true ↔ ∃ r, Text.trim line = '[' :: r := by
  rw [opensBracket, beq_iff_eq, List.head?_eq_some_iff]

/-- A line that has a key opens no bracket. -/
theorem opensBracket_of_needsKey {line : List Char} (h : needsKey line = true) :
    opensBracket line = false := by
  rw [needsKey] at h
  rw [opensBracket, beq_eq_false_iff_ne]
  intro hhead
  rw [hhead] at h
  revert h
  decide

/-- A line that opens a bracket is a header if it closes it, and a fault if not. -/
theorem readHeader_of_opens {line : List Char} (h : opensBracket line = true) :
    readHeader line = match headerName? line with
      | some name => .ok (.header name)
      | none => .error (.unterminatedHeader (String.ofList (Text.trim line))) := by
  obtain ⟨r, hr⟩ := opensBracket_iff.1 h
  rw [readHeader, headerName?, hr]
  simp only
  split <;> rfl

/-- A line that opens no bracket is no header. -/
theorem readHeader_of_not_opens {line : List Char} (h : opensBracket line = false) :
    readHeader line = .ok (.other (Text.trim line)) := by
  rw [readHeader]
  split
  next r hr => simp [opensBracket, hr] at h
  · rfl

/-- Put lines without headers at the end of a section. -/
def extend (raw : List String) (s : Section) (ls : List (List Char)) : Section :=
  if raw.contains s.name then { s with body := s.body ++ ls.filterMap freeText? }
  else { s with entries := s.entries ++ ls.filterMap entry? }

theorem name_extend (raw : List String) (s : Section) (ls : List (List Char)) :
    (s.extend raw ls).name = s.name := by
  rw [extend]
  split <;> rfl

theorem extend_nil (raw : List String) (s : Section) : s.extend raw [] = s := by
  simp [extend]

/-- Lines may be put to a section one by one. -/
theorem extend_cons (raw : List String) (s : Section) (l : List Char) (ls : List (List Char)) :
    (s.extend raw [l]).extend raw ls = s.extend raw (l :: ls) := by
  have hcons : ∀ {α : Type} (f : List Char → Option α),
      (l :: ls).filterMap f = [l].filterMap f ++ ls.filterMap f :=
    fun f => List.filterMap_append (l := [l])
  by_cases h : s.name ∈ raw <;> simp [extend, h, hcons freeText?, hcons entry?]

/-- A section of lines is the empty one with these lines. -/
theorem extend_empty (raw : List String) (name : String) (n : Nat) (ls : List (List Char)) :
    (empty name n).extend raw ls = ofLines raw name n ls := by
  simp [extend, ofLines, empty]

/-- A line without a bracket is added to its section, unless it lacks a key. -/
theorem addLine_eq (raw : List String) (s : Section) {line : List Char}
    (h : opensBracket line = false) :
    addLine raw s line (Text.trim line) =
      if s.name ∉ raw ∧ needsKey line = true ∧ '=' ∉ line then
        .error (.missingDelimiter (String.ofList (Text.trim line)))
      else .ok (s.extend raw [line]) := by
  have hopens : (Text.trim line).head? ≠ some '[' := by simpa [opensBracket] using h
  rw [addLine]
  by_cases hraw : s.name ∈ raw
  · by_cases hblank : Text.trim line = []
    · simp [hraw, hblank, extend, freeText?]
    · simp [hraw, hblank, extend, freeText?]
  · simp only [List.contains_iff_mem, hraw, if_false, not_false_eq_true, true_and]
    by_cases hkey : needsKey line = true
    · -- The line has to have a key, which its first `=` ends.
      have hskip : ¬(Text.trim line = [] ∨ (Text.trim line).head? = some ';' ∨
          (Text.trim line).head? = some '#') := by
        rintro (h0 | h0 | h0) <;> simp [needsKey, h0] at hkey
      rw [if_neg hskip, Text.splitOnce_trim (by decide)]
      cases hsplit : Text.splitOnce '=' line with
      | none => simp [hkey, Text.splitOnce_eq_none.1 hsplit]
      | some p =>
        obtain ⟨key, value⟩ := p
        have hmem : '=' ∈ line := by
          rw [(Text.splitOnce_eq_some.1 hsplit).1]
          simp
        simp [hkey, hmem, hraw, extend, entry?, hsplit, Text.trim_trimStart, Text.trim_trimEnd]
    · -- The other lines are blank or comments, since this one opens no bracket.
      have hskip : Text.trim line = [] ∨ (Text.trim line).head? = some ';' ∨
          (Text.trim line).head? = some '#' := by
        cases hhead : (Text.trim line).head? with
        | none => exact Or.inl (List.head?_eq_none_iff.1 hhead)
        | some c =>
          have hmem : c = '[' ∨ c = ';' ∨ c = '#' := by
            simpa [needsKey, hhead, or_iff_not_imp_left] using hkey
          rcases hmem with rfl | rfl | rfl
          · exact absurd hhead hopens
          · exact Or.inr (Or.inl rfl)
          · exact Or.inr (Or.inr rfl)
      rw [if_pos hskip]
      simp [hkey, hraw, extend, entry?]

variable {raw : List String} {p q : Progress} {n : Nat} {line : List Char}

theorem opensBracket_of_headerName? {name : String} (h : headerName? line = some name) :
    opensBracket line = true := by
  obtain ⟨inner, htrim, -⟩ := headerName?_eq_some_iff.1 h
  exact opensBracket_iff.2 ⟨_, htrim⟩

/-- A header completes the section under way, and starts another one. -/
theorem readLine_of_headerName? {name : String} (h : headerName? line = some name) :
    readLine raw p n line = .ok ⟨p.done ++ [p.current], empty name n⟩ := by
  rw [readLine, readHeader_of_opens (opensBracket_of_headerName? h), h]
  rfl

/-- A line that opens no bracket is put to the current section, unless it lacks the sign that it has
to have. -/
theorem readLine_of_not_opens (h : opensBracket line = false) :
    readLine raw p n line =
      if p.current.name ∉ raw ∧ needsKey line = true ∧ '=' ∉ line then
        .error ⟨n, .missingDelimiter (String.ofList (Text.trim line))⟩
      else .ok { p with current := p.current.extend raw [line] } := by
  rw [readLine, readHeader_of_not_opens h]
  show Except.mapError _ ((addLine raw p.current line (Text.trim line)).bind _) = _
  rw [addLine_eq raw p.current h]
  by_cases hc : p.current.name ∉ raw ∧ needsKey line = true ∧ '=' ∉ line
  · rw [if_pos hc, if_pos hc]
    rfl
  · rw [if_neg hc, if_neg hc]
    rfl

/-- One line fails exactly if it is faulty in the section under way. -/
theorem readLine_eq_error_iff {m : Malformed} :
    readLine raw p n line = .error m ↔ Faulty raw p.current.name line m.fault ∧ m.line = n := by
  obtain ⟨k, fault⟩ := m
  cases hopens : opensBracket line with
  | true =>
    cases hname : headerName? line with
    | some name =>
      rw [readLine_of_headerName? hname]
      constructor
      · rintro ⟨⟩
      · -- A header is complete, and needs no key.
        rintro ⟨⟨-, hnone⟩ | ⟨-, hkey, -⟩, -⟩
        · rw [hname] at hnone; cases hnone
        · rw [opensBracket_of_needsKey hkey] at hopens; cases hopens
    -- A bracket that is opened but not closed is an error in every section.
    | none =>
      rw [readLine, readHeader_of_opens hopens, hname]
      constructor
      · rintro ⟨⟩
        exact ⟨.unterminated hopens hname, rfl⟩
      · rintro ⟨⟨-, -⟩ | ⟨-, hkey, -⟩, rfl⟩
        · rfl
        · rw [opensBracket_of_needsKey hkey] at hopens; cases hopens
  | false =>
    rw [readLine_of_not_opens hopens]
    constructor
    · intro h
      split at h
      next hc =>
        cases h
        exact ⟨.missing hc.1 hc.2.1 hc.2.2, rfl⟩
      · cases h
    · rintro ⟨⟨hb, -⟩ | ⟨hraw, hkey, heq⟩, rfl⟩
      · rw [hopens] at hb; cases hb
      · rw [if_pos ⟨hraw, hkey, heq⟩]

/-- What a line does to the sections read so far. -/
inductive Reads (raw : List String) (p : Progress) (n : Nat) (line : List Char) : Progress → Prop
  | header {name : String} (h : headerName? line = some name) :
      Reads raw p n line ⟨p.done ++ [p.current], empty name n⟩
  | other (h : opensBracket line = false) :
      Reads raw p n line { p with current := p.current.extend raw [line] }

/-- A line that is read is a header or is put to the current section. -/
theorem reads_of_readLine (h : readLine raw p n line = .ok q) : Reads raw p n line q := by
  cases hopens : opensBracket line with
  | true =>
    cases hname : headerName? line with
    | some name =>
      rw [readLine_of_headerName? hname] at h
      cases h
      exact .header hname
    | none =>
      rw [readLine, readHeader_of_opens hopens, hname] at h
      cases h
  | false =>
    rw [readLine_of_not_opens hopens] at h
    split at h
    · cases h
    · cases h
      exact .other hopens

/-- The name of the current section is that of the last header. -/
theorem name_of_reads (h : Reads raw p n line q) :
    q.current.name = (headerName? line).getD p.current.name := by
  cases h with
  | header h => simp [h, empty]
  | other h =>
    -- A line that opens no bracket is no header, so the section stays.
    have hnone : headerName? line = none := by
      cases hname : headerName? line with
      | none => rfl
      | some name => rw [opensBracket_of_headerName? hname] at h; cases h
    rw [hnone]
    exact name_extend raw p.current [line]

/-! ### All lines -/

/-- A line hands on the name of the section that it stands in or opens. -/
theorem nameAfter_cons (name : String) (l : List Char) (before : List (List Char)) :
    nameAfter name (l :: before) = nameAfter ((headerName? l).getD name) before := by
  cases h : headerName? l <;> simp [nameAfter, h, List.getLast?_cons]

/-- The first faulty line is the first line or, if that is not faulty, the first faulty one of the
rest. -/
theorem firstFaulty_cons {name : String} {l : List Char} {ls : List (List Char)} {m : Malformed} :
    FirstFaulty raw name n (l :: ls) m ↔
      (Faulty raw name l m.fault ∧ m.line = n) ∨
      ((∀ fault, ¬Faulty raw name l fault) ∧
        FirstFaulty raw ((headerName? l).getD name) (n + 1) ls m) := by
  constructor
  · rintro ⟨before, line, after, hls, hbefore, hfault, hline⟩
    cases before with
    | nil =>
      obtain ⟨rfl, rfl⟩ := List.cons.inj hls
      exact Or.inl ⟨hfault, hline⟩
    | cons b before =>
      obtain ⟨rfl, rfl⟩ := List.cons.inj hls
      -- The line in front may open the section that the rest is read in.
      refine Or.inr ⟨hbefore [] l before rfl, before, line, after, rfl, ?_, ?_, ?_⟩
      · intro b x a hb
        have := hbefore (l :: b) x a (by rw [hb]; rfl)
        rwa [nameAfter_cons] at this
      · rwa [nameAfter_cons] at hfault
      · rw [hline, List.length_cons]; omega
  · rintro (⟨hfault, hline⟩ | ⟨hl, before, line, after, rfl, hbefore, hfault, hline⟩)
    · exact ⟨[], l, ls, rfl, by simp, hfault, hline⟩
    · refine ⟨l :: before, line, after, rfl, ?_, ?_, ?_⟩
      · intro b x a hb
        cases b with
        | nil =>
          obtain ⟨rfl, rfl⟩ := List.cons.inj hb
          exact hl
        | cons c b =>
          obtain ⟨rfl, rfl⟩ := List.cons.inj hb
          rw [nameAfter_cons]
          exact hbefore b x a rfl
      · rwa [nameAfter_cons]
      · rw [hline, List.length_cons]; omega

/-- Lines fail with the first one that is faulty in its section. -/
theorem readLines_eq_error_iff {ls : List (List Char)} {m : Malformed} :
    readLines raw p n ls = .error m ↔ FirstFaulty raw p.current.name n ls m := by
  -- The section under way changes at headers, so the induction is for every state.
  induction ls generalizing p n with
  | nil =>
    constructor
    · rintro ⟨⟩
    · rintro ⟨before, line, after, h, -⟩
      simp at h
  | cons l ls ih =>
    rw [readLines, firstFaulty_cons]
    show (readLine raw p n l).bind (fun p => readLines raw p (n + 1) ls) = .error m ↔ _
    rw [bind_eq_error_iff, readLine_eq_error_iff]
    refine or_congr_right ⟨?_, ?_⟩
    · rintro ⟨q, hq, hrest⟩
      refine ⟨fun fault hfault => ?_, ?_⟩
      · rw [(readLine_eq_error_iff (m := ⟨n, fault⟩)).2 ⟨hfault, rfl⟩] at hq
        cases hq
      · rw [← name_of_reads (reads_of_readLine hq)]
        exact ih.1 hrest
    · rintro ⟨hl, hrest⟩
      cases hq : readLine raw p n l with
      | error m' => exact absurd (readLine_eq_error_iff.1 hq).1 (hl _)
      | ok q =>
        refine ⟨q, rfl, ih.2 ?_⟩
        rwa [name_of_reads (reads_of_readLine hq)]

/-- If a line is faulty in its section, some line is the first one. -/
theorem exists_firstFaulty {name : String} {before after : List (List Char)} {fault : LineFault}
    (h : Faulty raw (nameAfter name before) line fault) (n : Nat) :
    ∃ m, FirstFaulty raw name n (before ++ line :: after) m := by
  induction before generalizing name n with
  | nil => exact ⟨⟨n, fault⟩, firstFaulty_cons.2 (Or.inl ⟨h, rfl⟩)⟩
  | cons l before ih =>
    -- Either the line in front is faulty itself, or the rest is read in the section that it leaves.
    by_cases hl : ∃ fault, Faulty raw name l fault
    · obtain ⟨fault, hfault⟩ := hl
      exact ⟨⟨n, fault⟩, firstFaulty_cons.2 (Or.inl ⟨hfault, rfl⟩)⟩
    · rw [nameAfter_cons] at h
      obtain ⟨m, hm⟩ := ih h (n + 1)
      exact ⟨m, firstFaulty_cons.2 (Or.inr ⟨not_exists.1 hl, hm⟩)⟩

/-- Lines that are read are split into blocks, and the sections are those of the blocks. -/
theorem sections_of_readLines {ls : List (List Char)} (h : readLines raw p n ls = .ok q) :
    ∃ head blocks, Splits ls head blocks ∧ q.sections =
      p.done ++ p.current.extend raw head :: ofBlocks raw (n + head.length) blocks := by
  induction ls generalizing p n with
  | nil =>
    cases h
    refine ⟨[], [], ⟨rfl, by simp, by simp, by simp⟩, ?_⟩
    rw [extend_nil]
    rfl
  | cons l ls ih =>
    obtain ⟨p1, hline, hrest⟩ := bind_eq_ok_iff.1 h
    obtain ⟨head, blocks, hsplit, hsections⟩ := ih hrest
    cases reads_of_readLine hline with
    | @header name hname =>
      -- The lines before the next header are the body of a new block.
      refine ⟨[], ⟨l, name, head⟩ :: blocks, ⟨?_, by simp, ?_, ?_⟩, ?_⟩
      · simp [hsplit.eq, Block.lines]
      · simpa [hname] using hsplit.header
      · simpa using ⟨hsplit.head, hsplit.body⟩
      · rw [hsections, extend_nil, extend_empty, ofBlocks]
        simp [Block.lines, Nat.add_right_comm, Nat.add_assoc]
    | other hl =>
      refine ⟨l :: head, blocks, ⟨?_, ?_, hsplit.header, hsplit.body⟩, ?_⟩
      · simp [hsplit.eq]
      · simpa [hl] using hsplit.head
      · rw [hsections, extend_cons, List.length_cons]
        simp [Nat.add_right_comm, Nat.add_assoc]

/-! ### Lines after other lines -/

/-- Sections read after others, with line numbers that are larger by `k`. -/
def Progress.after (before : List Section) (k : Nat) (p : Progress) : Progress :=
  ⟨before ++ p.done.map (moved k), moved k p.current⟩

theorem Progress.sections_after (before : List Section) (k : Nat) (p : Progress) :
    (p.after before k).sections = before ++ p.sections.map (moved k) := by
  simp [Progress.after, Progress.sections]

/-- Lines may be put to a section before it is moved or after that. -/
theorem moved_extend (k : Nat) (s : Section) (ls : List (List Char)) :
    moved k (s.extend raw ls) = (moved k s).extend raw ls := by
  rw [extend, extend]
  show moved k (if raw.contains s.name then _ else _) = if raw.contains s.name then _ else _
  split <;> rfl

/-- The sections before a line, and its number, do not change what it does. -/
theorem readLine_after (before : List Section) (k : Nat) :
    readLine raw (p.after before k) (n + k) line =
      ((readLine raw p n line).map (Progress.after before k)).mapError (movedFault k) := by
  cases hopens : opensBracket line with
  | true =>
    cases hname : headerName? line with
    | some name =>
      rw [readLine_of_headerName? hname, readLine_of_headerName? hname]
      simp [Except.map, Except.mapError, Progress.after, moved, empty]
    | none =>
      rw [readLine, readLine, readHeader_of_opens hopens, hname]
      rfl
  | false =>
    rw [readLine_of_not_opens hopens, readLine_of_not_opens hopens]
    -- Only the name of the current section decides what the line may be.
    have hcurrent : (p.after before k).current.name = p.current.name := rfl
    rw [hcurrent]
    by_cases hc : p.current.name ∉ raw ∧ needsKey line = true ∧ '=' ∉ line
    · rw [if_pos hc, if_pos hc]
      rfl
    · rw [if_neg hc, if_neg hc]
      simp [Except.map, Except.mapError, Progress.after, moved_extend]

/-- Lines are read after sections as they are read alone, with their numbers moved. -/
theorem readLines_after (before : List Section) (k : Nat) (ls : List (List Char)) :
    readLines raw (p.after before k) (n + k) ls =
      ((readLines raw p n ls).map (Progress.after before k)).mapError (movedFault k) := by
  induction ls generalizing p n with
  | nil => rfl
  | cons l ls ih =>
    -- One line is moved by `readLine_after`, and the rest follows from there.
    show (readLine raw (p.after before k) (n + k) l).bind _ =
      Except.mapError _ (Except.map _ ((readLine raw p n l).bind _))
    rw [readLine_after]
    cases readLine raw p n l with
    | error m => rfl
    | ok q =>
      show readLines raw (q.after before k) (n + k + 1) ls = _
      rw [Nat.add_right_comm, ih]
      rfl

theorem moved_zero (l : List Section) : l.map (moved 0) = l :=
  List.map_id'' (fun _ => rfl) l

/-- Lines of which the first opens a bracket do not depend on the section under way. -/
theorem sections_of_opens (hopens : opensBracket line = true) (k : Nat) (ls : List (List Char)) :
    (readLines raw p (1 + k) (line :: ls)).map Progress.sections =
      (((readLines raw .start 1 (line :: ls)).map Progress.sections).map fun l =>
        p.sections ++ l.tail.map (moved k)).mapError (movedFault k) := by
  cases hname : headerName? line with
  | none =>
    -- The fault of a broken header does not depend on what stands before.
    have hfault : ∀ q n, readLine raw q n line =
        .error ⟨n, .unterminatedHeader (String.ofList (Text.trim line))⟩ := by
      intro q n
      rw [readLine, readHeader_of_opens hopens, hname]
      rfl
    simp only [readLines, hfault]
    show Except.error (⟨1 + k, _⟩ : Malformed) = .error ⟨1 + k, _⟩
    rfl
  | some name =>
    -- From the header on both runs are the run that starts there, after other sections.
    have hafter : ∀ q k, readLines raw q (1 + k) (line :: ls) =
        ((readLines raw ⟨[], empty name 1⟩ 2 ls).map (Progress.after q.sections k)).mapError
          (movedFault k) := by
      intro q k
      show (readLine raw q (1 + k) line).bind _ = _
      rw [readLine_of_headerName? hname, ← readLines_after, Nat.add_right_comm 1 k 1]
      simp [Progress.after, Progress.sections, moved, empty, Except.bind]
    rw [hafter p k, hafter .start 0]
    cases readLines raw ⟨[], empty name 1⟩ 2 ls with
    | error m => rfl
    | ok q =>
      show Except.ok (q.after p.sections k).sections =
        .ok (p.sections ++ ((q.after Progress.start.sections 0).sections.tail).map (moved k))
      rw [Progress.sections_after, Progress.sections_after, moved_zero]
      rfl

/-- The lines of a text that is empty or ends in a newline, followed by a text without a mark. -/
theorem textLines_append {text more : String}
    (htext : text.toList = [] ∨ text.toList.getLast? = some '\n')
    (hmark : Text.dropMark more.toList = more.toList) :
    textLines (text ++ more) = textLines text ++ Text.lines more.toList ∧
      (textLines text).length = text.toList.count '\n' := by
  have happend := Text.lines_dropMark_append htext hmark
  rw [hmark] at happend
  rwa [textLines, textLines, String.toList_append]

/-- A text that is empty or ends in a newline, followed by a text that opens with a bracket. -/
theorem read_append {text more : String} {h : List Char} {ls : List (List Char)}
    (htext : text.toList = [] ∨ text.toList.getLast? = some '\n')
    (hmore : Text.lines more.toList = h :: ls) (hopens : opensBracket h = true) :
    read raw (text ++ more) = (read raw text).bind fun l =>
      ((read raw more).map fun r => l ++ r.tail.map (moved (text.toList.count '\n'))).mapError
        (movedFault (text.toList.count '\n')) := by
  have hmark : Text.dropMark more.toList = more.toList := by
    rw [Text.dropMark_eq_self_iff]
    intro hhead
    obtain ⟨r, hr⟩ := List.head?_eq_some_iff.1 hhead
    obtain ⟨l, ls', hl⟩ := Text.exists_lines_cons (c := '\uFEFF') (by decide) (by decide) r
    -- A mark is no white space, so the first line would not open with a bracket.
    rw [← hr, hmore, List.cons.injEq] at hl
    obtain ⟨t, ht⟩ := Text.trim_cons (c := '\uFEFF') (by decide) l
    rw [hl.1, opensBracket, ht, List.head?_cons] at hopens
    exact absurd hopens (by decide)
  obtain ⟨hlines, hlength⟩ := textLines_append htext hmark
  show Except.map _ (readLines raw .start 1 (textLines (text ++ more))) =
    (Except.map _ (readLines raw .start 1 (textLines text))).bind _
  rw [hlines, readLines_append, ← hlength]
  cases readLines raw .start 1 (textLines text) with
  | error m => rfl
  | ok q =>
    show Except.map _ (readLines raw q _ _) = Except.mapError _ (Except.map _ (Except.map _
      (readLines raw .start 1 (Text.lines (Text.dropMark more.toList)))))
    rw [hmark, hmore]
    exact sections_of_opens hopens _ ls

/-! ### Values -/

/-- The value of a key is that of its last line. -/
theorem get?_ofLines {name key value : String} {ls : List (List Char)} :
    (ofLines raw name n ls).get? key = some value ↔
      name ∉ raw ∧ ∃ before line after, ls = before ++ line :: after ∧
        entry? line = some (key, value) ∧ ∀ l ∈ after, ∀ v, entry? l ≠ some (key, v) := by
  rw [ofLines]
  by_cases hraw : name ∈ raw
  · simp [hraw, get?]
  · rw [if_neg (by simpa using hraw), get?]
    -- Looking from the last entry on is looking from the last line on.
    simp only [← List.filterMap_reverse, List.find?_filterMap, Option.map_eq_some_iff,
      Option.bind_eq_some_iff, List.find?_eq_some_iff_append]
    constructor
    · rintro ⟨⟨k, v⟩, ⟨line, ⟨hline, after, before, hls, hafter⟩, hentry⟩, rfl⟩
      have hkey : k = key := by simpa [hentry] using hline
      refine ⟨hraw, before.reverse, line, after.reverse, ?_, hkey ▸ hentry, ?_⟩
      · simpa using congrArg List.reverse hls
      · intro l hl v hv
        simpa [hv] using hafter l (List.mem_reverse.1 hl)
    · rintro ⟨-, before, line, after, rfl, hentry, hafter⟩
      refine ⟨(key, value), ⟨line, ⟨by simp [hentry], after.reverse, before.reverse, ?_, ?_⟩,
        hentry⟩, rfl⟩
      · simp
      · intro l hl
        have hl := hafter l (List.mem_reverse.1 hl)
        cases he : entry? l with
        | none => rfl
        | some e =>
          obtain ⟨k, v⟩ := e
          have hne : k ≠ key := fun hk => hl v (hk ▸ he)
          simp [hne]

/-! ### Whole texts -/

/-- What a text of sections may hold, which sections it makes, which values they have, and what
text that follows it adds. -/
theorem read_grammar (raw : List String) (text : String) :
    ((∃ m, read raw text = .error m) ↔
      ∃ before line after fault, textLines text = before ++ line :: after ∧
        Faulty raw (nameAfter headName before) line fault) ∧
    (∀ m, read raw text = .error m ↔ FirstFaulty raw headName 1 (textLines text) m) ∧
    (∀ l, read raw text = .ok l → ∃ head blocks, Splits (textLines text) head blocks ∧
      l = ofLines raw headName 0 head :: ofBlocks raw (1 + head.length) blocks) ∧
    (∀ name n ls key value, (ofLines raw name n ls).get? key = some value ↔
      name ∉ raw ∧ ∃ before line after, ls = before ++ line :: after ∧
        entry? line = some (key, value) ∧ ∀ l ∈ after, ∀ v, entry? l ≠ some (key, v)) ∧
    ∀ more h ls, (text.toList = [] ∨ text.toList.getLast? = some '\n') →
      Text.lines more.toList = h :: ls → opensBracket h = true →
      read raw (text ++ more) = (read raw text).bind fun l =>
        ((read raw more).map fun r => l ++ r.tail.map (moved (text.toList.count '\n'))).mapError
          (movedFault (text.toList.count '\n')) := by
  have herror : ∀ m, read raw text = .error m ↔ FirstFaulty raw headName 1 (textLines text) m :=
    fun m => map_eq_error_iff.trans readLines_eq_error_iff
  refine ⟨⟨?_, ?_⟩, herror, ?_, ?_, ?_⟩
  · rintro ⟨m, hm⟩
    obtain ⟨before, line, after, hlines, -, hfault, -⟩ := (herror m).1 hm
    exact ⟨before, line, after, m.fault, hlines, hfault⟩
  · -- Some line is faulty, so there is a first one.
    rintro ⟨before, line, after, fault, hlines, hfault⟩
    obtain ⟨m, hm⟩ : ∃ m, FirstFaulty raw headName 1 (before ++ line :: after) m :=
      exists_firstFaulty hfault 1
    exact ⟨m, (herror m).2 (hlines ▸ hm)⟩
  · intro l hl
    obtain ⟨p, hp, rfl⟩ := map_eq_ok_iff.1 hl
    obtain ⟨head, blocks, hsplits, hsections⟩ := sections_of_readLines hp
    refine ⟨head, blocks, hsplits, ?_⟩
    rw [hsections, ← extend_empty]
    rfl
  · exact fun name n ls key value => get?_ofLines
  · exact fun more h ls htext hmore hopens => read_append htext hmore hopens

/-- Reading two texts one after the other moves the sections of the second one. -/
theorem read_grammar_two_texts :
    "a = 1\n".toList.getLast? = some '\n' ∧
    Text.lines "[b]\na = 2\na=3".toList = ["[b]".toList, "a = 2".toList, "a=3".toList] ∧
    opensBracket "[b]".toList = true ∧
    read [] ("a = 1\n" ++ "[b]\na = 2\na=3") =
      .ok [⟨headName, 0, [("a", "1")], []⟩, ⟨"b", 2, [("a", "2"), ("a", "3")], []⟩] := by
  have hend : "a = 1\n".toList.getLast? = some '\n' := by decide
  have hlines : Text.lines "[b]\na = 2\na=3".toList =
      ["[b]".toList, "a = 2".toList, "a=3".toList] := by decide
  have hopens : opensBracket "[b]".toList = true := by decide
  refine ⟨hend, hlines, hopens, ?_⟩
  rw [(read_grammar [] "a = 1\n").2.2.2.2 _ _ _ (Or.inr hend) hlines hopens]
  decide

end VocalScore.Section
