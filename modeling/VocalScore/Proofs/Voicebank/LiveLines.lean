import VocalScore.Proofs.Text.Scanning
import VocalScore.Proofs.Traversal
import VocalScore.Voicebank.SampleTable

/-!
# Live lines

Sample tables and prefix maps are read line by line, and pass over the same lines: those with
nothing but white space, and comments. The others are live. A line keeps its place in the text as
its number, whatever is passed over before it.

## Key results

- `SampleTable.isSkipped_eq` / `PrefixMap.isSkipped_eq`: the lines that are not passed over are
  live
- `lines_append`: the lines of two texts, one after the other
-/

namespace VocalScore

open Traversal

/-- A line counts unless it is blank or starts, after white space, with the comment character. -/
structure IsLive (comment : Option Char) (line : List Char) : Prop where
  visible : ∃ c ∈ line, Text.isBlank c = false
  comment : ∀ c ∈ comment, (Text.trimStart line).head? ≠ some c

instance (comment : Option Char) (line : List Char) : Decidable (IsLive comment line) :=
  -- Stated as tests, so that deciding never ranges over all characters.
  decidable_of_iff (line.any (fun c => !Text.isBlank c) = true ∧
      comment.all (fun c => (Text.trimStart line).head? != some c) = true) <| by
    simp only [List.any_eq_true, Option.all_eq_true, Bool.not_eq_true', bne_iff_ne]
    exact ⟨fun ⟨visible, comment⟩ => ⟨visible, comment⟩,
      fun ⟨visible, comment⟩ => ⟨visible, comment⟩⟩

/-- The live lines of a text with their numbers, which count all lines from 1. A byte order mark
at the front belongs to no line. -/
def liveLines (comment : Option Char) (text : String) : List (List Char × Nat) :=
  ((Text.lines (Text.dropMark text.toList)).zipIdx 1).filter fun p => decide (IsLive comment p.1)

/-- A text that other text may follow: it is empty or ends in a newline. -/
def EndsLine (text : String) : Prop := text.toList = [] ∨ text.toList.getLast? = some '\n'

/-- The same error, some lines later. -/
def VoicebankError.moved (k : Nat) : VoicebankError → VoicebankError
  | missingSeparator n => missingSeparator (n + k)
  | missingFields n => missingFields (n + k)
  | malformed m => malformed { m with line := m.line + k }
  | e => e

/-! ### Which lines are live -/

/-- A sample table skips the lines that are not live. -/
theorem SampleTable.isSkipped_eq (comment : Option Char) (line : List Char) :
    isSkipped comment line = !decide (IsLive comment line) := by
  have hblank : Text.trimStart line = [] ↔ ¬∃ c ∈ line, Text.isBlank c = false := by
    rw [← Text.all_isBlank_iff_trimStart, List.all_eq_true]
    simp
  rw [Bool.eq_iff_iff, isSkipped, Bool.or_eq_true, decide_eq_true_iff, hblank, Bool.not_eq_true',
    decide_eq_false_iff_not]
  constructor
  · -- Blank, or with the mark of a comment in front.
    rintro (h | h) ⟨hvisible, hcomment⟩
    · exact h hvisible
    · obtain ⟨c, hc, hhead⟩ := (Option.any_eq_true _ _).1 h
      exact hcomment c hc (beq_iff_eq.1 hhead)
  · intro h
    by_contra hno
    rw [not_or, not_not] at hno
    refine h ⟨hno.1, fun c hc hhead => hno.2 ?_⟩
    exact (Option.any_eq_true _ _).2 ⟨c, hc, beq_iff_eq.2 hhead⟩

/-- A prefix map skips the lines that are not live. -/
theorem PrefixMap.isSkipped_eq (comment : Option Char) (line : List Char) :
    isSkipped comment line = !decide (IsLive comment line) := by
  -- Trimming the back as well changes neither whether anything is left nor what is in front.
  have hnil : Text.trim line = [] ↔ Text.trimStart line = [] := by
    rw [← Text.all_isBlank_iff_trim, Text.all_isBlank_iff_trimStart]
  rw [← SampleTable.isSkipped_eq, isSkipped, SampleTable.isSkipped, Text.head?_trim,
    decide_eq_decide.2 hnil]

/-- The live lines are those that a reader keeps. -/
theorem liveLines_eq_kept {skips : List Char → Bool} {comment : Option Char}
    (h : ∀ line, skips line = !decide (IsLive comment line)) (text : String) :
    liveLines comment text = kept skips 1 (Text.lines (Text.dropMark text.toList)) := by
  rw [liveLines, kept]
  exact List.filter_congr fun p _ => by rw [h, Bool.not_not]

/-! ### Texts one after the other -/

/-- The lines of a text that ends its last line and a text without a mark are those of the first,
then those of the second. -/
theorem lines_append {text more : String} (htext : EndsLine text)
    (hmore : more.toList.head? ≠ some '\uFEFF') :
    Text.lines (Text.dropMark (text ++ more).toList) =
        Text.lines (Text.dropMark text.toList) ++ Text.lines (Text.dropMark more.toList) ∧
      (Text.lines (Text.dropMark text.toList)).length = text.toList.count '\n' := by
  rw [String.toList_append]
  exact Text.lines_dropMark_append htext (Text.dropMark_eq_self_iff.2 hmore)

end VocalScore
