import VocalScore.Proofs.Score.BendGrammar
import VocalScore.Proofs.Score.EnvelopeGrammar
import VocalScore.Score.Note

/-!
# The grammar of notes

Which values of its keys a note has to have, and which note they stand for. A value that is empty
is as good as none, but for the lyric.

## Key results

- `requiredNat_eq_ok_iff`, `readUnless_eq_ok_iff`, `optional_eq_ok_iff`, `readBend_eq_ok_iff`:
  single keys
- `ofSection_eq_ok_iff`: the note of a section is the one that its values describe
-/

namespace VocalScore.Note

open Traversal
open VocalScore.Field (IsNumber)

/-! ### Values -/

/-- The number that a text stands for if it is digits, with or without a plus sign before them. -/
structure IsCount (s : String) (n : Nat) : Prop where
  whole : Number.IsWhole s.toList n
  unsigned : s.toList.head? ≠ some '-'

/-- A count is not empty. -/
theorem IsCount.ne_empty {s : String} {n : Nat} (h : IsCount s n) : s ≠ "" := by
  rintro rfl
  exact h.whole.ne_nil rfl

/-- What a text stands for: nothing if it is empty, and else something of its grammar. -/
inductive IsGiven {α : Type} (s : String) (P : α → Prop) : Option α → Prop
  | empty (h : s = "") : IsGiven s P none
  | given {a : α} (hs : s ≠ "") (h : P a) : IsGiven s P (some a)

/-- The number that a text stands for, unless it is blank. -/
inductive IsOptional (s : String) : Option Float → Prop
  | blank (h : Text.blank s = true) : IsOptional s none
  | number {x : Float} (h : IsNumber s.toList x) : IsOptional s (some x)

variable (value? : String → Option String)

/-- The value of a key, empty if the key is absent. -/
def valueOf (key : String) : String := (value? key).getD ""

/-- The bend of a note: there is one if one of the keys of its start has a value, be it empty, and
then it is described by the six keys of a bend. -/
inductive IsBend : Option PitchBend → Prop
  | absent (hPBS : value? "PBS" = none) (hPBStart : value? "PBStart" = none) : IsBend none
  | present {b : PitchBend} (h : value? "PBS" ≠ none ∨ value? "PBStart" ≠ none)
      (hb : PitchBend.Describes (valueOf value? "PBType") (valueOf value? "PBStart")
        (valueOf value? "PBS") (valueOf value? "PBW") (valueOf value? "PBY")
        (valueOf value? "PBM") b) :
      IsBend (some b)

/-- The values of keys are those of a note. -/
structure Describes (note : Note) : Prop where
  length : IsCount (valueOf value? "Length") note.length.toNat
  pitch : IsCount (valueOf value? "NoteNum") note.pitch.toNat
  pitch_le : note.pitch.toNat ≤ 127
  lyric : ∃ v, value? "Lyric" = some v ∧ note.lyric = Text.trimmed v
  intensity : ∃ x, IsGiven (valueOf value? "Intensity")
    (IsNumber (valueOf value? "Intensity").toList) x ∧ note.intensity = x.getD 100.0
  envelope : IsGiven (valueOf value? "Envelope") (Envelope.Describes (valueOf value? "Envelope"))
    note.envelope
  pitchBend : IsBend value? note.pitchBend
  velocity : IsOptional (valueOf value? "Velocity") note.velocity
  modulation : ∃ x, IsOptional (valueOf value? "Modulation") x ∧ note.modulation = x.getD 0.0
  preUtterance : IsOptional (valueOf value? "PreUtterance") note.preUtterance
  voiceOverlap : IsOptional (valueOf value? "VoiceOverlap") note.voiceOverlap
  startPoint : IsOptional (valueOf value? "StartPoint") note.startPoint

variable {value?}

/-- A note has a bend exactly if one of the two keys of a start is there. -/
theorem IsBend.isSome_iff {o : Option PitchBend} (h : IsBend value? o) :
    o.isSome = true ↔ value? "PBS" ≠ none ∨ value? "PBStart" ≠ none := by
  cases h with
  | absent hPBS hPBStart => simp [hPBS, hPBStart]
  | present h hb => exact iff_of_true rfl h

/-! ### Single keys -/

variable {s : Section} {key : String}

/-- The value of a key in a section is empty if the key is missing. -/
theorem valueOf_get? (s : Section) (key : String) : valueOf s.get? key = s.value key := rfl

/-- A required value is missing if it is empty. -/
theorem required_eq (s : Section) (key : String) :
    required s key =
      if s.value key = "" then .error (.missingField s.name key) else .ok (s.value key) := by
  rw [required, Section.value]
  cases s.get? key <;> rfl

/-- A required number is read exactly if its text is a count within the bound. -/
theorem requiredNat_eq_ok_iff {bound k : Nat} :
    requiredNat s key bound = .ok k ↔ IsCount (valueOf s.get? key) k ∧ k ≤ bound := by
  -- A count is not empty, so `required` adds nothing to what is asked of the text.
  have hraw : ∀ raw, required s key = .ok raw ↔ s.value key ≠ "" ∧ raw = s.value key := by
    intro raw
    rw [required_eq]
    split
    next hempty => simp [hempty]
    next hempty => simp [hempty, eq_comm]
  rw [requiredNat, valueOf_get?]
  show Except.bind _ _ = _ ↔ _
  simp only [bind_eq_ok_iff, hraw]
  constructor
  · rintro ⟨raw, ⟨-, rfl⟩, h⟩
    split at h
    next n hn =>
      cases h
      obtain ⟨hwhole, hunsigned, hle⟩ := Number.readNat_eq_some_iff.1 hn
      exact ⟨⟨hwhole, hunsigned⟩, hle⟩
    · cases h
  · rintro ⟨hcount, hle⟩
    refine ⟨_, ⟨hcount.ne_empty, rfl⟩, ?_⟩
    rw [Number.readNat_eq_some_iff.2 ⟨hcount.whole, hcount.unsigned, hle⟩]

/-- A value that may be empty is read exactly if it is empty or the reader reads it. -/
theorem readUnless_eq_ok_iff {α : Type} {f : String → Except ScoreError α} {P : α → Prop}
    (hf : ∀ a, f (s.value key) = .ok a ↔ P a) {o : Option α} :
    readUnless s key f = .ok o ↔ IsGiven (valueOf s.get? key) P o := by
  rw [readUnless, valueOf_get?]
  by_cases hs : s.value key = ""
  · rw [if_pos hs]
    constructor
    · rintro ⟨⟩
      exact .empty hs
    · rintro (_ | ⟨hne, -⟩)
      · rfl
      · exact absurd hs hne
  · -- A value that is not empty goes to the reader.
    rw [if_neg hs, map_eq_ok_iff]
    constructor
    · rintro ⟨a, ha, rfl⟩
      exact .given hs ((hf a).1 ha)
    · rintro (he | ⟨-, h⟩)
      · exact absurd he hs
      · exact ⟨_, (hf _).2 h, rfl⟩

/-- An optional number is read exactly if it is blank or a number. -/
theorem optional_eq_ok_iff {o : Option Float} :
    optional s key = .ok o ↔ IsOptional (valueOf s.get? key) o := by
  rw [optional, Field.optionalNumber, valueOf_get?]
  cases hblank : Text.blank (s.value key) with
  | true =>
    rw [if_pos rfl]
    constructor
    · rintro ⟨⟩
      exact .blank hblank
    · rintro (_ | h)
      · rfl
      · -- A blank text is no number, so it cannot be both.
        exact absurd h (Field.not_isNumber_of_blank hblank _)
  | false =>
    rw [if_neg Bool.false_ne_true, map_eq_ok_iff]
    simp only [Field.number_eq_ok_iff]
    constructor
    · rintro ⟨x, hx, rfl⟩
      exact .number hx
    · rintro (h | h)
      · rw [hblank] at h
        cases h
      · exact ⟨_, h, rfl⟩

/-- The bend of a note is read exactly if the values of its keys describe one, or there is none. -/
theorem readBend_eq_ok_iff {o : Option PitchBend} :
    readBend s = .ok o ↔ IsBend s.get? o := by
  rw [readBend, Section.has_eq_isSome_get?, Section.has_eq_isSome_get?]
  by_cases h : s.get? "PBS" ≠ none ∨ s.get? "PBStart" ≠ none
  · -- A key without a value counts as well: the bend is then read from an empty text.
    have hhas : ((s.get? "PBS").isSome || (s.get? "PBStart").isSome) = true := by
      simpa [Option.isSome_iff_ne_none] using h
    rw [if_pos hhas, map_eq_ok_iff]
    simp only [PitchBend.read_eq_ok_iff]
    constructor
    · rintro ⟨b, hb, rfl⟩
      exact .present h hb
    · rintro (⟨hPBS, hPBStart⟩ | ⟨-, hb⟩)
      · rcases h with h | h
        · exact absurd hPBS h
        · exact absurd hPBStart h
      · exact ⟨_, hb, rfl⟩
  · rw [not_or, not_not, not_not] at h
    rw [h.1, h.2]
    constructor
    · rintro ⟨⟩
      exact .absent h.1 h.2
    · rintro (_ | ⟨h' | h', -⟩)
      · rfl
      · exact absurd h.1 h'
      · exact absurd h.2 h'

/-- The note of a section is the one that its values describe. -/
theorem ofSection_eq_ok_iff {note : Note} : ofSection s = .ok note ↔ Describes s.get? note := by
  cases hlyric : s.get? "Lyric" with
  | none =>
    simp only [ofSection, bind, bind_eq_ok_iff, hlyric]
    constructor
    · rintro ⟨length, -, pitch, -, lyric, ⟨⟩, -⟩
    · intro h
      obtain ⟨v, hv, -⟩ := h.lyric
      rw [hlyric] at hv
      cases hv
  | some v =>
    simp only [ofSection, bind, bind_eq_ok_iff, hlyric, requiredNat_eq_ok_iff, readBend_eq_ok_iff,
      optional_eq_ok_iff, readUnless_eq_ok_iff fun _ => Field.number_eq_ok_iff,
      readUnless_eq_ok_iff fun _ => Envelope.read_eq_ok_iff]
    constructor
    · -- What each step of the reader gives is a field of the note, in the order of the reader.
      rintro ⟨length, ⟨hlength, hle⟩, pitch, ⟨hpitch, hle'⟩, lyric, ⟨⟩, intensity, hintensity,
        envelope, henvelope, bend, hbend, velocity, hvelocity, modulation, hmodulation,
        preUtterance, hpreUtterance, voiceOverlap, hvoiceOverlap, startPoint, hstartPoint, ⟨⟩⟩
      -- The bounds of the readers are those of the fields, so nothing wraps.
      have hlength' : (UInt32.ofNat length).toNat = length :=
        UInt32.toNat_ofNat_of_lt' (Nat.lt_of_le_pred (by decide) hle)
      have hpitch' : (UInt8.ofNat pitch).toNat = pitch :=
        UInt8.toNat_ofNat_of_lt' (Nat.lt_of_le_of_lt hle' (by decide))
      exact {
        length := hlength'.symm ▸ hlength
        pitch := hpitch'.symm ▸ hpitch
        pitch_le := hpitch'.symm ▸ hle'
        lyric := ⟨v, hlyric, rfl⟩
        intensity := ⟨intensity, hintensity, rfl⟩
        envelope := henvelope
        pitchBend := hbend
        velocity := hvelocity
        modulation := ⟨modulation, hmodulation, rfl⟩
        preUtterance := hpreUtterance
        voiceOverlap := hvoiceOverlap
        startPoint := hstartPoint }
    · intro h
      obtain ⟨v', hv', hlyric'⟩ := h.lyric
      obtain ⟨intensity, hintensity, hintensity'⟩ := h.intensity
      obtain ⟨modulation, hmodulation, hmodulation'⟩ := h.modulation
      -- The lyric is the only value that may not be missing but may be empty.
      obtain rfl : v = v' := Option.some.inj (hlyric.symm.trans hv')
      refine ⟨_, ⟨h.length, Nat.le_pred_of_lt note.length.toNat_lt⟩, _, ⟨h.pitch, h.pitch_le⟩, _,
        rfl, _, hintensity, _, h.envelope, _, h.pitchBend, _, h.velocity, _, hmodulation, _,
        h.preUtterance, _, h.voiceOverlap, _, h.startPoint, ?_⟩
      rw [UInt32.ofNat_toNat, UInt8.ofNat_toNat, ← hlyric', defaultIntensity, ← hintensity',
        ← hmodulation']

end VocalScore.Note
