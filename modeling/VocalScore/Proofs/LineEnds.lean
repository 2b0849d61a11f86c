import VocalScore.Proofs.Score.SectionGrammar
import VocalScore.Proofs.Text.LineBreaks
import VocalScore.Score.Basic
import VocalScore.Voicebank.Manifest
import VocalScore.Voicebank.Profile
import VocalScore.Voicebank.SampleTable

/-!
# Line ends do not matter

Files come with a carriage return before each newline, or without, or with some. Every reader of
this library looks at a text through its lines, which are the same in all of these, and so are the
numbers of the lines.

## Key results

- `readAlike_of_lines`: what the readers look at
- `readAlike_withReturns`: line ends are not a part of that
-/

namespace VocalScore

/-- Two texts are read alike, or fail alike, by all readers and with all options. -/
structure ReadAlike (text other : String) : Prop where
  score : Score.read text = Score.read other
  samples : ∀ o, SampleTable.read o text = SampleTable.read o other
  prefixes : ∀ o, PrefixMap.read o text = PrefixMap.read o other
  profile : Profile.read text = Profile.read other
  manifest : Manifest.read text = Manifest.read other

/-- A text with a carriage return before each newline. -/
def withReturns (text : String) : String := String.ofList (Text.withReturns text.toList)

/-- A reader sees the lines of a text, some of them after dropping a mark. -/
theorem readAlike_of_lines {text other : String}
    (hlines : Text.lines text.toList = Text.lines other.toList)
    (hmark : Text.lines (Text.dropMark text.toList) = Text.lines (Text.dropMark other.toList)) :
    ReadAlike text other := by
  -- Scores and manifests are read through their sections; the profile keeps the mark.
  have hsections : ∀ raw, Section.read raw text = Section.read raw other := fun raw => by
    rw [Section.read, hmark, Section.read]
  refine ⟨?_, fun o => ?_, fun o => ?_, ?_, ?_⟩
  · rw [Score.read, hsections, Score.read]
  · rw [SampleTable.read, hmark, SampleTable.read]
  · rw [PrefixMap.read, hmark, PrefixMap.read]
  · rw [Profile.read, hlines, Profile.read]
  · rw [Manifest.read, hsections, Manifest.read]

/-- A text that gains carriage returns before its newlines is read as before. -/
theorem readAlike_of_gainsReturns {text other : String} (hreturn : '\r' ∉ text.toList)
    (h : Text.GainsReturns text.toList other.toList) : ReadAlike other text :=
  readAlike_of_lines (h.lines_eq hreturn)
    (h.dropMark.lines_eq fun hmem => hreturn (Text.mem_of_mem_dropMark hmem))

/-- A text without carriage returns is read like the one that has them before all of its newlines,
and like any that has them before some. -/
theorem readAlike_withReturns (text : String) (h : '\r' ∉ text.toList) :
    ReadAlike (withReturns text) text ∧
      ∀ other : String, Text.GainsReturns text.toList other.toList → ReadAlike other text := by
  refine ⟨readAlike_of_gainsReturns h ?_, fun other => readAlike_of_gainsReturns h⟩
  rw [withReturns, String.toList_ofList]
  exact Text.gainsReturns_withReturns text.toList

/-- The third line is at fault, with carriage returns on both lines before it and on one. -/
theorem readAlike_withReturns_error :
    '\r' ∉ "\n\nb".toList ∧ withReturns "\n\nb" = "\r\n\r\nb" ∧
    SampleTable.read {} "\r\n\r\nb" = .error (.missingSeparator 3) ∧
    Text.GainsReturns "\n\nb".toList "\n\r\nb".toList ∧
    SampleTable.read {} "\n\r\nb" = .error (.missingSeparator 3) := by
  have hreturn : '\r' ∉ "\n\nb".toList := by decide
  have htext : withReturns "\n\nb" = "\r\n\r\nb" := by decide
  have hsome : Text.GainsReturns "\n\nb".toList "\n\r\nb".toList :=
    .keep '\n' (.put (.keep 'b' .nil))
  have herror : SampleTable.read {} "\n\nb" = .error (.missingSeparator 3) := rfl
  obtain ⟨hall, hmixed⟩ := readAlike_withReturns _ hreturn
  exact ⟨hreturn, htext, htext ▸ (hall.samples {}).trans herror, hsome,
    ((hmixed _ hsome).samples {}).trans herror⟩

end VocalScore
