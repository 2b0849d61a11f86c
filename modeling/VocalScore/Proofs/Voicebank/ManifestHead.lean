import VocalScore.Proofs.Score.SectionKeys
import VocalScore.Voicebank.Manifest

/-!
# The head of a manifest

A manifest is read as a text of sections, and has to be one as a whole. What it says stands before
its first header: lines after that, under whatever name, count for the grammar only.

## Key results

- `Section.sections_of_read`: the first section of a text holds the lines before the first header
- `ofSections_cons`: sections after the first one do not count
- `firstFaulty_iff`: which line the error of a manifest is about
- `read_decided_by_head`: what a manifest says, and when there is none
-/

namespace VocalScore

open Traversal

namespace Section

/-- The lines of a text before the first that opens a bracket. -/
def headLines (text : String) : List (List Char) := (textLines text).takeWhile (!opensBracket ·)

/-- The lines before the first header are those before the first line that opens a bracket. -/
theorem Splits.head_eq {ls head : List (List Char)} {blocks : List Block}
    (h : Splits ls head blocks) : head = ls.takeWhile (!opensBracket ·) := by
  have hhead : ∀ l ∈ head, (!opensBracket l) = true := fun l hl => by rw [h.head l hl]; rfl
  rw [h.eq, List.takeWhile_append_of_pos hhead]
  cases blocks with
  | nil => rw [List.flatMap_nil, List.takeWhile_nil, List.append_nil]
  | cons b blocks =>
    -- The first block begins with its header, where the lines of the head end.
    have hopens := opensBracket_of_headerName? (h.header b List.mem_cons_self)
    rw [List.flatMap_cons, Block.lines, List.cons_append,
      List.takeWhile_cons_of_neg (by rw [hopens]; decide), List.append_nil]

/-- The first section of a text holds the lines before the first header. -/
theorem sections_of_read {raw : List String} {text : String} {l : List Section}
    (h : read raw text = .ok l) :
    ∃ rest, l = ofLines raw headName 0 (headLines text) :: rest := by
  obtain ⟨p, hp, rfl⟩ := map_eq_ok_iff.1 h
  obtain ⟨head, blocks, hsplits, hsections⟩ := sections_of_readLines hp
  -- The lines before the first header go to a section that was empty before.
  refine ⟨ofBlocks raw (1 + head.length) blocks, ?_⟩
  rw [hsections, headLines, textLines, ← hsplits.head_eq, ← extend_empty]
  rfl

/-- The error of a text of sections is its first faulty line. -/
theorem read_eq_error_iff {raw : List String} {text : String} {m : Malformed} :
    read raw text = .error m ↔ FirstFaulty raw headName 1 (textLines text) m :=
  map_eq_error_iff.trans readLines_eq_error_iff

/-- Where no section is raw, the name of its section does not matter to a line. -/
theorem Faulty.of_name {name name' : String} {line : List Char} {fault : LineFault}
    (h : Faulty [] name line fault) : Faulty [] name' line fault := by
  cases h with
  | unterminated hopens h => exact .unterminated hopens h
  | missing _ hkey h => exact .missing List.not_mem_nil hkey h

end Section

namespace Manifest

open VocalScore.Section (textLines headLines headName lastValue?)

/-- What is wrong with a line of a manifest. -/
def Faulty (line : List Char) (fault : LineFault) : Prop := Section.Faulty [] headName line fault

/-- The manifest that lines make: each value is that of the last line with its key, or else empty.
-/
def ofLines (ls : List (List Char)) : Manifest where
  kind := (lastValue? "type" ls).getD ""
  folder := (lastValue? "folder" ls).getD ""
  contentsDir := (lastValue? "contentsdir" ls).getD ""
  description := (lastValue? "description" ls).getD ""

/-- Sections after the first one do not count, not even those that have its name. -/
theorem ofSections_cons (n : Nat) (ls : List (List Char)) (rest : List Section) :
    ofSections (Section.ofLines [] headName n ls :: rest) = ofLines ls := by
  -- The first section has the name of the head, so the search ends with it.
  have hfind : (Section.ofLines [] headName n ls :: rest).find? (·.name == headName) =
      some (Section.ofLines [] headName n ls) := rfl
  rw [ofSections, hfind]
  simp only [Section.value, Section.get?_ofLines_eq, ofLines]

/-- Without raw sections it does not matter which section a line stands in. -/
theorem firstFaulty_iff {ls : List (List Char)} {m : Malformed} :
    Section.FirstFaulty [] headName 1 ls m ↔
      ∃ before line after, ls = before ++ line :: after ∧ (∀ l ∈ before, ∀ f, ¬Faulty l f) ∧
        Faulty line m.fault ∧ m.line = before.length + 1 := by
  simp only [Section.FirstFaulty, Nat.add_comm 1]
  constructor
  · rintro ⟨before, line, after, hls, hbefore, hfault, hline⟩
    -- The section of a line does not matter, so its place in the text does not either.
    refine ⟨before, line, after, hls, fun l hl f hf => ?_, hfault.of_name, hline⟩
    obtain ⟨b, a, hsplit⟩ := List.append_of_mem hl
    exact hbefore b l a hsplit f hf.of_name
  · rintro ⟨before, line, after, hls, hbefore, hfault, hline⟩
    refine ⟨before, line, after, hls, fun b l a hsplit f hf => ?_, hfault.of_name, hline⟩
    exact hbefore l (hsplit ▸ List.mem_append_cons_self) f hf.of_name

/-- A manifest fails with its first faulty line. -/
theorem read_eq_error_iff {text : String} {e : VoicebankError} :
    read text = .error e ↔
      ∃ before line after fault, textLines text = before ++ line :: after ∧
        (∀ l ∈ before, ∀ f, ¬Faulty l f) ∧ Faulty line fault ∧
        e = .malformed ⟨before.length + 1, fault⟩ := by
  rw [read, map_eq_error_iff, mapError_eq_error_iff]
  simp only [Section.read_eq_error_iff, firstFaulty_iff]
  constructor
  · rintro ⟨⟨n, fault⟩, ⟨before, line, after, hls, hbefore, hfault, rfl⟩, rfl⟩
    exact ⟨before, line, after, fault, hls, hbefore, hfault, rfl⟩
  · rintro ⟨before, line, after, fault, hls, hbefore, hfault, rfl⟩
    exact ⟨_, ⟨before, line, after, hls, hbefore, hfault, rfl⟩, rfl⟩

/-- A manifest says what its head says. -/
theorem eq_ofLines_of_read {text : String} {m : Manifest} (h : read text = .ok m) :
    m = ofLines (headLines text) := by
  obtain ⟨l, hl, rfl⟩ := map_eq_ok_iff.1 h
  obtain ⟨rest, rfl⟩ := Section.sections_of_read (mapError_eq_ok_iff.1 hl)
  exact ofSections_cons 0 _ rest

/-- A manifest without faulty lines is read, and one that is read has none. -/
theorem read_eq_ok_iff {text : String} {m : Manifest} :
    read text = .ok m ↔
      (∀ line ∈ textLines text, ∀ fault, ¬Faulty line fault) ∧ m = ofLines (headLines text) := by
  constructor
  · intro h
    refine ⟨fun line hline fault hfault => ?_, eq_ofLines_of_read h⟩
    -- A faulty line would make some line the first of its kind, and that the error.
    obtain ⟨before, after, hsplit⟩ := List.append_of_mem hline
    have hafter : Section.Faulty [] (Section.nameAfter headName before) line fault := hfault.of_name
    obtain ⟨m', hfirst⟩ : ∃ m', Section.FirstFaulty [] headName 1 (before ++ line :: after) m' :=
      Section.exists_firstFaulty hafter 1
    rw [← hsplit] at hfirst
    rw [read, Section.read_eq_error_iff.2 hfirst] at h
    cases h
  · rintro ⟨hlines, rfl⟩
    cases h : read text with
    | ok m => rw [eq_ofLines_of_read h]
    | error e =>
      obtain ⟨before, line, after, fault, hsplit, -, hfault, -⟩ := read_eq_error_iff.1 h
      have hline : line ∈ textLines text := hsplit ▸ List.mem_append_cons_self
      exact absurd hfault (hlines line hline fault)

/-- A manifest is read exactly if none of its lines is faulty, and otherwise its error is that of
the first faulty line, wherever it stands. What is read is what the last lines of the four keys
before the first header say, so texts with one head say the same. The section of the head is always
there, and it is found even if a header has its name. -/
theorem read_decided_by_head (text : String) :
    (∀ m, read text = .ok m ↔
      (∀ line ∈ textLines text, ∀ fault, ¬Faulty line fault) ∧ m = ofLines (headLines text)) ∧
    (∀ e, read text = .error e ↔
      ∃ before line after fault, textLines text = before ++ line :: after ∧
        (∀ l ∈ before, ∀ f, ¬Faulty l f) ∧ Faulty line fault ∧
        e = .malformed ⟨before.length + 1, fault⟩) ∧
    (∀ other m m', headLines other = headLines text → read text = .ok m → read other = .ok m' →
      m' = m) ∧
    ∀ l, Section.read [] text = .ok l →
      l.find? (·.name == headName) = some (Section.ofLines [] headName 0 (headLines text)) := by
  refine ⟨fun m => read_eq_ok_iff, fun e => read_eq_error_iff, fun other m m' hhead h h' => ?_,
    fun l hl => ?_⟩
  · rw [eq_ofLines_of_read h, eq_ofLines_of_read h', hhead]
  · obtain ⟨rest, rfl⟩ := Section.sections_of_read hl
    rfl

/-- A header with the name of the head adds nothing to it. -/
theorem read_decided_by_head_named :
    headLines "folder= a\nfolder=b \n[DEFAULT]\nfolder=c\n" = headLines "folder= a\nfolder=b \n" ∧
    read "folder= a\nfolder=b \n" = .ok ⟨"", "b", "", ""⟩ ∧
    read "folder= a\nfolder=b \n[DEFAULT]\nfolder=c\n" = .ok ⟨"", "b", "", ""⟩ ∧
    ∃ l, Section.read [] "folder= a\nfolder=b \n[DEFAULT]\nfolder=c\n" = .ok l ∧
      l.find? (·.name == headName) =
        some ⟨headName, 0, [("folder", "a"), ("folder", "b")], []⟩ := by
  have hhead : headLines "folder= a\nfolder=b \n[DEFAULT]\nfolder=c\n" =
      headLines "folder= a\nfolder=b \n" := by decide
  have hplain : read "folder= a\nfolder=b \n" = .ok ⟨"", "b", "", ""⟩ := by decide
  obtain ⟨m, hm⟩ : ∃ m, read "folder= a\nfolder=b \n[DEFAULT]\nfolder=c\n" = .ok m := ⟨_, rfl⟩
  obtain ⟨l, hl⟩ : ∃ l, Section.read [] "folder= a\nfolder=b \n[DEFAULT]\nfolder=c\n" = .ok l :=
    ⟨_, rfl⟩
  refine ⟨hhead, hplain, ?_, l, hl, ((read_decided_by_head _).2.2.2 l hl).trans (by decide)⟩
  rw [hm, (read_decided_by_head _).2.2.1 _ _ m hhead hplain hm]

end Manifest

end VocalScore
