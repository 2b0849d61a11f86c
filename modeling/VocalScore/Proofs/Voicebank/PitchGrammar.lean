import VocalScore.Proofs.Number.Digits
import VocalScore.Proofs.Text.Scanning
import VocalScore.Voicebank.PitchName

/-!
# The grammar of pitch names

A name has a letter, an accidental or none, and an octave of digits with or without a minus sign.
The row of the twelve semitones in which letter and accidental stand, in capitals or not, and the
octave make up a whole number, which has to be a pitch of MIDI. The reader computes this number
within 64 bits, which never brings a number into the range of MIDI that is outside of it.

## Key results

- `readOctave?_eq_some_iff`: which texts are octaves
- `semitone?_eq`: letters and accidentals stand for the semitones of the table
- `parts?_eq_some_iff`: which texts have the parts of a name
- `midi_spec`: the number within 64 bits and the exact one are on the same side of each bound
- `read_eq_ok_iff` / `read_eq_error_iff`: which names are read, and what is wrong with the others
- `read_iff_denotes`: both, and what is left of the exact number within 64 bits
-/

namespace VocalScore.PitchName

/-! ### Names -/

/-- The digits of an octave and the sign before them. -/
structure Octave where
  negative : Bool
  digits : List Char
  ne_nil : digits ≠ []
  all_isDigit : digits.all Char.isDigit = true

/-- An octave as it is written. -/
def Octave.text (o : Octave) : List Char := if o.negative then '-' :: o.digits else o.digits

/-- The number of an octave. -/
def Octave.value (o : Octave) : Int :=
  if o.negative then -(Number.natOfDigits o.digits : Int) else Number.natOfDigits o.digits

/-- The capitals that stand for a pitch. -/
def capitals : List Char := ['A', 'B', 'C', 'D', 'E', 'F', 'G', 'H']

/-- The letters that stand for a pitch. -/
def nameLetters : List Char := capitals ++ ['a', 'b', 'c', 'd', 'e', 'f', 'g', 'h']

/-- The signs of accidentals. -/
def signs : List Char := ['#', 'b', 'B']

/-- A letter, an accidental or none, and an octave. -/
structure Name where
  letter : Char
  sign : Option Char
  octave : Octave
  letter_mem : letter ∈ nameLetters
  sign_mem : ∀ c ∈ sign, c ∈ signs

/-- A name as it is written. -/
def Name.text (n : Name) : List Char := n.letter :: (n.sign.toList ++ n.octave.text)

/-- The spellings of the twelve semitones, from C up. -/
def semitoneSpellings : List (List String) :=
  [["C"], ["C#", "Db"], ["D"], ["D#", "Eb"], ["E"], ["F"], ["F#", "Gb"], ["G"], ["G#", "Ab"],
    ["A"], ["A#", "Bb", "Hb"], ["B", "H"]]

/-- The semitone that a letter and an accidental spell, whatever their case. -/
def spelled? (letter : Char) (sign : Option Char) : Option Nat :=
  semitoneSpellings.findIdx? fun row => row.any fun s =>
    s.toList.map Char.toLower == (letter :: sign.toList).map Char.toLower

/-- A text is a name that spells the semitone `k`, with the octave `n` of 64 bits. -/
def Denotes (t : List Char) (k : Nat) (n : Int) : Prop :=
  ∃ name : Name, t = name.text ∧ spelled? name.letter name.sign = some k ∧
    name.octave.value = n ∧ minInt64 ≤ n ∧ n ≤ maxInt64

/-- The number of a semitone in an octave, which need not be one of MIDI: 60 is the C of octave 5,
or of octave 4 if octaves are counted from -1. -/
def number : OctaveNumbering → Nat → Int → Int
  | .c0, k, n => 12 * n + k
  | .cMinus1, k, n => 12 * (n + 1) + k

/-- Octaves are counted from the lowest one. -/
theorem number_eq (octaves : OctaveNumbering) (k : Nat) (n : Int) :
    number octaves k n = 12 * (n - octaves.lowest) + k := by
  cases octaves <;> simp [number, OctaveNumbering.lowest]

/-! ### Octaves -/

/-- An octave starts with a digit or with a minus sign. -/
theorem Octave.text_eq_cons (o : Octave) :
    ∃ c r, o.text = c :: r ∧ (c = '-' ∨ c.isDigit = true) := by
  obtain ⟨d, ds, hds⟩ := List.exists_cons_of_ne_nil o.ne_nil
  have hall := o.all_isDigit
  rw [hds, List.all_cons, Bool.and_eq_true] at hall
  rw [Octave.text]
  split
  · exact ⟨'-', o.digits, rfl, Or.inl rfl⟩
  · exact ⟨d, ds, hds, Or.inr hall.1⟩

/-- The text of an octave is a whole number, its value. -/
theorem Octave.isWhole_text (o : Octave) : Number.IsWhole o.text o.value := by
  rw [Octave.text, Octave.value]
  split
  · exact .minus ⟨o.ne_nil, o.all_isDigit⟩
  · exact .unsigned ⟨o.ne_nil, o.all_isDigit⟩

/-- A text is an octave if it has digits, with or without a minus sign before them, and its number
has 64 bits. -/
theorem readOctave?_eq_some_iff {s : List Char} {n : Int} :
    readOctave? s = some n ↔
      ∃ o : Octave, s = o.text ∧ o.value = n ∧ minInt64 ≤ n ∧ n ≤ maxInt64 := by
  constructor
  · intro h
    unfold readOctave? at h
    split at h
    · cases h
    next hplus =>
      obtain ⟨hwhole, hlo, hhi⟩ := Number.readInt_eq_some_iff.1 h
      -- Whole numbers may have a plus sign, which the reader of octaves has turned away.
      cases hwhole with
      | unsigned hds => exact ⟨⟨false, _, hds.ne_nil, hds.all_isDigit⟩, rfl, rfl, hlo, hhi⟩
      | plus hds => exact absurd rfl (hplus _)
      | minus hds => exact ⟨⟨true, _, hds.ne_nil, hds.all_isDigit⟩, rfl, rfl, hlo, hhi⟩
  · rintro ⟨o, rfl, rfl, hlo, hhi⟩
    -- A plus sign is neither a minus sign nor a digit.
    have hplus : ∀ r, o.text = '+' :: r → False := by
      intro r hr
      obtain ⟨c, q, hcons, hc⟩ := o.text_eq_cons
      obtain ⟨rfl, -⟩ := List.cons.inj (hcons.symm.trans hr)
      revert hc
      decide
    rw [readOctave?]
    · exact Number.readInt_eq_some_iff.2 ⟨o.isWhole_text, hlo, hhi⟩
    · exact hplus

/-! ### Letters and accidentals -/

/-- The accidental of a sign. -/
def Accidental.ofSign : Option Char → Accidental
  | none => .natural
  | some c => if c = '#' then .sharp else .flat

/-- A text is put together again from its accidental and the rest. -/
theorem exists_sign (r : List Char) :
    ∃ sign : Option Char, (∀ c ∈ sign, c ∈ signs) ∧ r = sign.toList ++ (spanAccidental r).2 ∧
      (spanAccidental r).1 = .ofSign sign := by
  cases r with
  | nil => exact ⟨none, by simp, rfl, rfl⟩
  | cons c r =>
    -- A sharp, a flat in either case, or no accidental: then the text is all rest.
    rw [spanAccidental]
    split
    next hsharp => exact ⟨some c, by simp [signs, hsharp], rfl, (if_pos hsharp).symm⟩
    next hsharp =>
      split
      next hflat => exact ⟨some c, by simpa [signs] using Or.inr hflat, rfl, (if_neg hsharp).symm⟩
      · exact ⟨none, by simp, rfl, rfl⟩

/-- An accidental splits off in front of an octave. -/
theorem spanAccidental_append {sign : Option Char} (h : ∀ c ∈ sign, c ∈ signs) (o : Octave) :
    spanAccidental (sign.toList ++ o.text) = (.ofSign sign, o.text) := by
  cases sign with
  | none =>
    -- An octave starts with neither sign of an accidental.
    obtain ⟨c, r, hcons, hc⟩ := o.text_eq_cons
    rw [hcons, Option.toList_none, List.nil_append, spanAccidental, if_neg, if_neg]
    · rfl
    · rintro (rfl | rfl) <;> revert hc <;> decide
    · rintro rfl
      revert hc
      decide
  | some c =>
    rcases List.mem_cons.1 (h c rfl) with rfl | hflat
    · rfl
    · have hsharp : c ≠ '#' := by rintro rfl; revert hflat; decide
      have hb : c = 'b' ∨ c = 'B' := by simpa using hflat
      rw [Option.toList_some, List.singleton_append, spanAccidental, if_neg hsharp, if_pos hb,
        Accidental.ofSign, if_neg hsharp]

/-- A note of the scale has one of seven letters. -/
theorem mem_capitals_of_semitone? {c : Char} {a : Accidental} {k : Nat}
    (h : semitone? c a = some k) : c ∈ capitals := by
  -- The table has no row for a letter that is none of these.
  unfold semitone? at h
  split at h <;> first | decide | cases h

/-- A letter with one of the capitals is that capital or its small letter. -/
theorem mem_nameLetters_of_toUpper {c : Char} (h : c.toUpper ∈ capitals) : c ∈ nameLetters := by
  by_cases hlower : c.val ≥ 'a'.val ∧ c.val ≤ 'z'.val
  · -- There are only 26 small letters.
    have hall : ∀ n < 26, (Char.ofNat (97 + n)).toUpper ∈ capitals →
        Char.ofNat (97 + n) ∈ nameLetters := by decide
    have hlo : 97 ≤ c.toNat := UInt32.le_iff_toNat_le.1 hlower.1
    have hhi : c.toNat ≤ 122 := UInt32.le_iff_toNat_le.1 hlower.2
    have hc : Char.ofNat (97 + (c.toNat - 97)) = c := by
      rw [Nat.add_sub_cancel' hlo, Char.ofNat_toNat]
    have hmem := hall (c.toNat - 97) (by omega)
    rw [hc] at hmem
    exact hmem h
  · have hsame : c.toUpper = c := dif_neg hlower
    exact List.mem_append_left _ (hsame ▸ h)

/-- Letters and accidentals stand for the semitones of the table. -/
theorem semitone?_eq {letter : Char} {sign : Option Char} (hletter : letter ∈ nameLetters)
    (hsign : ∀ c ∈ sign, c ∈ signs) :
    semitone? letter.toUpper (.ofSign sign) = spelled? letter sign := by
  -- Sixteen letters, each alone or with one of three signs.
  have hall : nameLetters.all fun l => (none :: signs.map some).all fun s =>
      semitone? l.toUpper (.ofSign s) == spelled? l s := by decide +kernel
  have hmem : sign ∈ none :: signs.map some := by
    cases sign with
    | none => exact List.mem_cons_self
    | some c => exact List.mem_cons_of_mem _ (List.mem_map_of_mem (hsign c rfl))
  exact beq_iff_eq.1 (List.all_eq_true.1 (List.all_eq_true.1 hall letter hletter) sign hmem)

/-! ### Whole names -/

/-- A text has the parts of a name if it is one that spells a semitone, with an octave of 64
bits. -/
theorem parts?_eq_some_iff {t : List Char} {k : Nat} {n : Int} :
    parts? t = some (k, n) ↔ Denotes t k n := by
  constructor
  · intro h
    cases t with
    | nil => cases h
    | cons letter r =>
      obtain ⟨sign, hsign, hr, haccidental⟩ := exists_sign r
      rw [parts?] at h
      simp only at h
      split at h
      next k' n' hk hn =>
        cases h
        -- The letter is in the table, and what follows the accidental is an octave.
        have hletter := mem_nameLetters_of_toUpper (mem_capitals_of_semitone? hk)
        obtain ⟨o, ho, hvalue, hlo, hhi⟩ := readOctave?_eq_some_iff.1 hn
        rw [haccidental, semitone?_eq hletter hsign] at hk
        rw [ho] at hr
        exact ⟨⟨letter, sign, o, hletter, hsign⟩, congrArg (letter :: ·) hr, hk, hvalue, hlo, hhi⟩
      · cases h
  · rintro ⟨name, rfl, hk, hvalue, hlo, hhi⟩
    have hoctave := readOctave?_eq_some_iff.2 ⟨name.octave, rfl, hvalue, hlo, hhi⟩
    rw [← semitone?_eq name.letter_mem name.sign_mem] at hk
    simp only [Name.text, parts?, spanAccidental_append name.sign_mem, hk, hoctave]

/-- An octave has twelve semitones. -/
theorem Denotes.lt_twelve {t : List Char} {k : Nat} {n : Int} (h : Denotes t k n) : k < 12 := by
  obtain ⟨name, -, hk, -⟩ := h
  obtain ⟨hlt, -⟩ := List.findIdx?_eq_some_iff_getElem.1 hk
  exact hlt

/-- The number within 64 bits is below or above the range of MIDI exactly if the exact one is, and
it is the exact one unless that is beyond 64 bits or within an octave of their lower end. -/
theorem midi_spec (octaves : OctaveNumbering) {k : Nat} (hk : k < 12) (n : Int) :
    (midi octaves k n < 0 ↔ number octaves k n < 0) ∧
      (127 < midi octaves k n ↔ 127 < number octaves k n) ∧
      (minInt64 + 11 ≤ number octaves k n → number octaves k n ≤ maxInt64 →
        midi octaves k n = number octaves k n) := by
  have hmin : minInt64 = -9223372036854775808 := by decide
  have hmax : maxInt64 = 9223372036854775807 := by decide
  have hlowest : octaves.lowest = 0 ∨ octaves.lowest = -1 := by cases octaves <;> decide
  simp only [midi, saturate, number_eq]
  omega

/-- A name is read as its number, if that is a pitch. -/
theorem read_of_denotes (octaves : OctaveNumbering) {s : String} {k : Nat} {n : Int}
    (h : Denotes (Text.trim s.toList) k n) :
    read octaves s =
      if 0 ≤ number octaves k n ∧ number octaves k n ≤ 127 then
        .ok (UInt8.ofNat (number octaves k n).toNat)
      else .error (.pitchOutOfRange (Text.trimmed s) (midi octaves k n)) := by
  obtain ⟨hbelow, habove, hexact⟩ := midi_spec octaves h.lt_twelve n
  have hmin : minInt64 + 11 ≤ 0 := by decide
  have hmax : 127 ≤ maxInt64 := by decide
  simp only [read, parts?_eq_some_iff.2 h]
  by_cases hrange : 0 ≤ number octaves k n ∧ number octaves k n ≤ 127
  · rw [if_pos hrange, hexact (by omega) (by omega), if_pos hrange]
  · rw [if_neg hrange, if_neg (by omega), Text.trimmed]

/-- A text that is no name is invalid. -/
theorem read_of_not_denotes (octaves : OctaveNumbering) {s : String}
    (h : ∀ k n, ¬Denotes (Text.trim s.toList) k n) :
    read octaves s = .error (.invalidPitchName s) := by
  cases hparts : parts? (Text.trim s.toList) with
  | none => simp only [read, hparts]
  | some p => exact absurd (parts?_eq_some_iff.1 hparts) (h p.1 p.2)

/-- A name is read as the exact number of what it denotes. -/
theorem read_eq_ok_iff {octaves : OctaveNumbering} {s : String} {pitch : UInt8} :
    read octaves s = .ok pitch ↔
      ∃ k n, Denotes (Text.trim s.toList) k n ∧ number octaves k n = pitch.toNat ∧
        pitch.toNat ≤ 127 := by
  constructor
  · intro h
    by_cases hdenotes : ∃ k n, Denotes (Text.trim s.toList) k n
    · obtain ⟨k, n, hkn⟩ := hdenotes
      rw [read_of_denotes octaves hkn] at h
      split at h
      -- A number in range fits in a byte, so nothing wraps.
      next hrange =>
        cases h
        refine ⟨k, n, hkn, ?_⟩
        rw [UInt8.toNat_ofNat']
        omega
      · cases h
    · rw [read_of_not_denotes octaves fun k n hkn => hdenotes ⟨k, n, hkn⟩] at h
      cases h
  · rintro ⟨k, n, hkn, hnumber, hpitch⟩
    rw [read_of_denotes octaves hkn, hnumber, if_pos (by omega), Int.toNat_natCast,
      UInt8.ofNat_toNat]

/-- A name that is not read denotes nothing, or a number outside the range of MIDI. -/
theorem read_eq_error_iff {octaves : OctaveNumbering} {s : String} {e : VoicebankError} :
    read octaves s = .error e ↔
      (e = .invalidPitchName s ∧ ∀ k n, ¬Denotes (Text.trim s.toList) k n) ∨
      ∃ k n, Denotes (Text.trim s.toList) k n ∧
        (number octaves k n < 0 ∨ 127 < number octaves k n) ∧
        e = .pitchOutOfRange (Text.trimmed s) (midi octaves k n) := by
  constructor
  · intro h
    by_cases hdenotes : ∃ k n, Denotes (Text.trim s.toList) k n
    · obtain ⟨k, n, hkn⟩ := hdenotes
      rw [read_of_denotes octaves hkn] at h
      split at h
      · cases h
      next hrange =>
        cases h
        exact Or.inr ⟨k, n, hkn, by omega, rfl⟩
    · -- No name at all, or one out of range: these are the two errors.
      have hnone : ∀ k n, ¬Denotes (Text.trim s.toList) k n := fun k n h => hdenotes ⟨k, n, h⟩
      rw [read_of_not_denotes octaves hnone] at h
      cases h
      exact Or.inl ⟨rfl, hnone⟩
  · rintro (⟨rfl, hnone⟩ | ⟨k, n, hkn, hrange, rfl⟩)
    · exact read_of_not_denotes octaves hnone
    · rw [read_of_denotes octaves hkn, if_neg (by omega)]

/-- A name is read as a pitch of MIDI exactly if, without white space around it, it denotes a
semitone and an octave whose exact number is that pitch. A name with another number is out of
range, on the side of that number, and a text that denotes nothing is invalid; nothing else is
wrong with a name. -/
theorem read_iff_denotes (octaves : OctaveNumbering) (s : String) :
    (∀ pitch, read octaves s = .ok pitch ↔
      ∃ k n, Denotes (Text.trim s.toList) k n ∧ number octaves k n = pitch.toNat ∧
        pitch.toNat ≤ 127) ∧
    (∀ e, read octaves s = .error e ↔
      (e = .invalidPitchName s ∧ ∀ k n, ¬Denotes (Text.trim s.toList) k n) ∨
      ∃ k n, Denotes (Text.trim s.toList) k n ∧
        (number octaves k n < 0 ∨ 127 < number octaves k n) ∧
        e = .pitchOutOfRange (Text.trimmed s) (midi octaves k n)) ∧
    ∀ k n, Denotes (Text.trim s.toList) k n →
      (midi octaves k n < 0 ↔ number octaves k n < 0) ∧
      (127 < midi octaves k n ↔ 127 < number octaves k n) ∧
      (minInt64 + 11 ≤ number octaves k n → number octaves k n ≤ maxInt64 →
        midi octaves k n = number octaves k n) := by
  refine ⟨fun pitch => read_eq_ok_iff, fun e => read_eq_error_iff, fun k n h => ?_⟩
  exact midi_spec octaves h.lt_twelve n

/-- The letter H is B, a minus sign and zeros in front change nothing, and an octave beyond MIDI
is out of range however large it is. -/
example :
    read .c0 " hB04 " = .ok 58 ∧ read .cMinus1 "b-0" = .ok 23 ∧
      read .c0 "C9223372036854775807" =
        .error (.pitchOutOfRange "C9223372036854775807" 9223372036854775807) ∧
      read .c0 "C9223372036854775808" = .error (.invalidPitchName "C9223372036854775808") := by
  decide +kernel

end VocalScore.PitchName
