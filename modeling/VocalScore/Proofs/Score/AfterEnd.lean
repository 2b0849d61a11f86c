import VocalScore.Proofs.Score.SectionFold
import VocalScore.Proofs.Score.SectionGrammar

/-!
# Text after the end mark

The sections of a text are read before any of them is looked at, so what follows the end mark has
to be lines of sections. Apart from that it does not count: the sections up to the mark are the
same with and without it, and the draft of a score stops there.

## Key results

- `addSections_append_end`: sections after the end mark are not added
- `sections_of_end`: a text that goes on after the end mark has the sections before it, the mark
  and some more
- `read_append_end`: what text after the end mark does
-/

namespace VocalScore.Score

open Traversal

/-- The line of the end mark, with its newline. -/
def endLine : String := "[#TRACKEND]\n"

variable {a b : String}

/-- Sections after the end mark are not added. -/
theorem addSections_append_end (d : Draft) (l : List Section) {s : Section} (h : s.name = endName)
    (rest : List Section) : addSections d (l ++ s :: rest) = addSections d l := by
  induction l generalizing d with
  | nil => exact addSections_end d h rest
  | cons t l ih =>
    by_cases ht : t.name = endName
    · rw [List.cons_append, addSections_end d ht, addSections_end d ht]
    · rw [List.cons_append, addSections_cons d ht, addSections_cons d ht]
      exact congrArg _ (funext ih)

/-- The lines of a text that goes on after the end mark. -/
theorem textLines_end (ha : a.toList = [] ∨ a.toList.getLast? = some '\n') (b : String) :
    Section.textLines (a ++ endLine ++ b) =
      Section.textLines a ++ "[#TRACKEND]".toList :: Text.lines b.toList := by
  have htail : (endLine ++ b).toList = "[#TRACKEND]".toList ++ '\n' :: b.toList := by
    rw [String.toList_append]
    rfl
  -- The end mark has no byte order mark in front, whatever comes before it.
  have hmark : Text.dropMark (endLine ++ b).toList = (endLine ++ b).toList := by
    rw [htail]
    rfl
  rw [String.append_assoc, (Section.textLines_append ha hmark).1, htail,
    Text.lines_append_newline (by decide) (by decide)]

/-- The sections of a text that goes on after the end mark. -/
theorem sections_of_end (ha : a.toList = [] ∨ a.toList.getLast? = some '\n') {raw : List String}
    {l : List Section} (h : Section.read raw (a ++ endLine ++ b) = .ok l) :
    ∃ before s t rest, l = before ++ s :: rest ∧ s.name = endName ∧
      Section.read raw (a ++ endLine) = .ok (before ++ [t]) ∧ t.name = endName := by
  obtain ⟨q, hq, rfl⟩ := map_eq_ok_iff.1 h
  -- The text without more lines is one that goes on with the empty text.
  have hempty := textLines_end ha ""
  rw [String.append_empty] at hempty
  rw [← Section.textLines, textLines_end ha, Section.readLines_append] at hq
  obtain ⟨p, hp, hq⟩ := bind_eq_ok_iff.1 hq
  have hline : ∀ n, Section.readLine raw p n "[#TRACKEND]".toList =
      .ok ⟨p.done ++ [p.current], Section.empty endName n⟩ :=
    fun n => Section.readLine_of_headerName? (by decide)
  rw [Section.readLines, hline] at hq
  obtain ⟨head, blocks, -, hsections⟩ := Section.sections_of_readLines hq
  have hread : Section.read raw (a ++ endLine) = .ok (p.done ++ [p.current] ++
      [Section.empty endName (1 + (Section.textLines a).length)]) := by
    rw [Section.read, ← Section.textLines, hempty, Section.readLines_append, hp, Except.bind,
      Section.readLines, hline]
    rfl
  exact ⟨_, _, _, _, hsections, Section.name_extend raw _ head, hread, rfl⟩

/-- Text after the end mark has to be lines of sections, and changes nothing else. If some line
there cannot be read, the text as a whole is at fault with its first such line. -/
theorem read_append_end (ha : a.toList = [] ∨ a.toList.getLast? = some '\n') (b : String) :
    (∀ l, Section.read [versionName] (a ++ endLine ++ b) = .ok l →
      read (a ++ endLine ++ b) = read (a ++ endLine)) ∧
    (∀ m, Section.read [versionName] (a ++ endLine ++ b) = .error m →
      read (a ++ endLine ++ b) = .error (.malformed m) ∧
      Section.FirstFaulty [versionName] Section.headName 1
        (Section.textLines (a ++ endLine ++ b)) m) ∧
    (∀ score, read (a ++ endLine ++ b) = .ok score → read (a ++ endLine) = .ok score) ∧
    (∀ score, read (a ++ endLine) = .ok score → read (a ++ endLine ++ b) = .ok score ∨
      ∃ m, read (a ++ endLine ++ b) = .error (.malformed m)) := by
  -- The sections up to the end mark are the same, and the fold looks no further.
  have hok : ∀ l, Section.read [versionName] (a ++ endLine ++ b) = .ok l →
      read (a ++ endLine ++ b) = read (a ++ endLine) := by
    intro l hl
    obtain ⟨before, s, t, rest, rfl, hs, hread, ht⟩ := sections_of_end ha hl
    rw [read_eq_ofSections hl, read_eq_ofSections hread, ofSections, ofSections,
      addSections_append_end _ _ hs, addSections_append_end _ _ ht]
  -- Reading the sections comes first, so their error does, too.
  have herror : ∀ m, Section.read [versionName] (a ++ endLine ++ b) = .error m →
      read (a ++ endLine ++ b) = .error (.malformed m) := by
    intro m hm
    rw [read, hm]
    rfl
  refine ⟨hok, fun m hm => ⟨herror m hm, ?_⟩, ?_, ?_⟩
  · exact Section.readLines_eq_error_iff.1 (map_eq_error_iff.1 hm)
  · intro score hscore
    cases hl : Section.read [versionName] (a ++ endLine ++ b) with
    | error m => rw [herror m hl] at hscore; cases hscore
    | ok l => rw [← hok l hl, hscore]
  · intro score hscore
    cases hl : Section.read [versionName] (a ++ endLine ++ b) with
    | error m => exact Or.inr ⟨m, herror m hl⟩
    | ok l => exact Or.inl (by rw [hok l hl, hscore])

/-- A key, settings and a note that cannot be read do not count after the end mark. -/
theorem read_append_end_broken_note :
    "[#SETTING]\nTempo=120\nMode2=1\n".toList.getLast? = some '\n' ∧
    (∃ l, Section.read [versionName] ("[#SETTING]\nTempo=120\nMode2=1\n" ++ endLine ++
      "key = 1\n[#SETTING]\nTempo=0\n[#0000]\nLength=x\n") = .ok l) ∧
    (∃ score, read ("[#SETTING]\nTempo=120\nMode2=1\n" ++ endLine) = .ok score) ∧
    read ("[#SETTING]\nTempo=120\nMode2=1\n" ++ endLine ++
      "key = 1\n[#SETTING]\nTempo=0\n[#0000]\nLength=x\n") =
        read ("[#SETTING]\nTempo=120\nMode2=1\n" ++ endLine) := by
  have hend : "[#SETTING]\nTempo=120\nMode2=1\n".toList.getLast? = some '\n' := by decide
  have hsections : ∃ l, Section.read [versionName] ("[#SETTING]\nTempo=120\nMode2=1\n" ++
      endLine ++ "key = 1\n[#SETTING]\nTempo=0\n[#0000]\nLength=x\n") = .ok l :=
    ⟨_, rfl⟩
  obtain ⟨l, hl⟩ := hsections
  exact ⟨hend, ⟨l, hl⟩, ⟨_, rfl⟩, (read_append_end (Or.inr hend) _).1 l hl⟩

end VocalScore.Score
