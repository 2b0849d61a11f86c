import VocalScore.Proofs.Voicebank.PitchGrammar

/-!
# Written names of pitches

A name is written with a letter, an accidental and an octave, in capitals and without white
space, and reads back under the numbering that it was written with.

## Key results

- `isNameOf_iff`: a pitch is written as one name
- `read_render`: the name of a MIDI pitch reads back as the pitch
- `le_of_read`: only MIDI pitches are ever read
- `isNameChar_of_mem_render` / `render_eq_cons`: what names are written with
- `exists_ascii_of_read`: a name without ASCII is never read
-/

namespace VocalScore.PitchName

/-- The letters that names are written with. -/
def letters : List Char := ['A', 'B', 'C', 'D', 'E', 'F', 'G']

/-- A character that names are written with. -/
def IsNameChar (c : Char) : Prop := c ∈ letters ∨ c ∈ ['b', '#', '-'] ∨ c.isDigit = true

/-- The signs that names are written with, of which none is for the letter alone. -/
def writtenSigns (sharps : Bool) : List (Option Char) := [none, some (if sharps then '#' else 'b')]

/-- The name that a pitch is written as: a capital and a sharp or a flat that spell a semitone, and
the octave in decimal digits. -/
def IsNameOf (sharps : Bool) (octaves : OctaveNumbering) (pitch : UInt8) (name : List Char) :
    Prop :=
  ∃ letter ∈ letters, ∃ sign ∈ writtenSigns sharps, ∃ k octave,
    name = letter :: (sign.toList ++ Text.decimal octave) ∧
    spelled? letter sign = some k ∧ number octaves k octave = pitch.toNat

/-! ### The parts of a name -/

/-- Every semitone has a letter and a sign that spell it. -/
theorem exists_spelling (sharps : Bool) :
    ∀ k < 12, ∃ letter ∈ letters, ∃ sign ∈ writtenSigns sharps,
      ((spellings sharps).getD k "").toList = letter :: sign.toList ∧
      spelled? letter sign = some k := by
  -- Both tables are searched for every semitone.
  have hall : ∀ k < 12, letters.any (fun c => (writtenSigns sharps).any fun s =>
      ((spellings sharps).getD k "").toList == c :: s.toList && spelled? c s == some k) := by
    cases sharps <;> decide +kernel
  intro k hk
  obtain ⟨c, hc, hsign⟩ := List.any_eq_true.1 (hall k hk)
  obtain ⟨s, hs, hspell⟩ := List.any_eq_true.1 hsign
  rw [Bool.and_eq_true, beq_iff_eq, beq_iff_eq] at hspell
  exact ⟨c, hc, s, hs, hspell⟩

/-- With sharps or flats alone, no semitone is spelled in two ways. -/
theorem spelling_unique {sharps : Bool} {letter : Char} {sign : Option Char} {k : Nat}
    (hletter : letter ∈ letters) (hsign : sign ∈ writtenSigns sharps)
    (h : spelled? letter sign = some k) :
    ((spellings sharps).getD k "").toList = letter :: sign.toList := by
  have hall : letters.all fun c => (writtenSigns sharps).all fun s => (spelled? c s).all fun k =>
      ((spellings sharps).getD k "").toList == c :: s.toList := by
    cases sharps <;> decide +kernel
  have hspell := List.all_eq_true.1 (List.all_eq_true.1 hall letter hletter) sign hsign
  rw [h] at hspell
  exact eq_of_beq hspell

/-- A sign that names are written with is one of an accidental. -/
theorem mem_signs_of_mem_writtenSigns {sharps : Bool} {sign : Option Char}
    (h : sign ∈ writtenSigns sharps) : ∀ c ∈ sign, c ∈ signs := by
  have hall : (writtenSigns sharps).all fun s => s.toList.all (· ∈ signs) := by
    cases sharps <;> decide
  simpa using List.all_eq_true.1 hall sign h

/-- The octave that a number is written as. -/
def Octave.ofInt (n : Int) : Octave where
  negative := n < 0
  digits := Text.digits 10 n.natAbs
  ne_nil := Number.digits_ne_nil n.natAbs
  all_isDigit := Number.all_digits n.natAbs

/-- An octave is written in decimal digits. -/
theorem Octave.text_ofInt (n : Int) : (ofInt n).text = Text.decimal n := by
  simp only [Octave.text, ofInt, Text.decimal, decide_eq_true_eq]

/-- What an octave is written as has its number. -/
theorem Octave.value_ofInt (n : Int) : (ofInt n).value = n := by
  simp only [Octave.value, ofInt, Number.natOfDigits_digits, decide_eq_true_eq]
  omega

/-! ### Whole names -/

/-- A name starts with its letter. -/
theorem render_eq_cons (sharps : Bool) (octaves : OctaveNumbering) (n : UInt8) :
    ∃ c r, render sharps octaves n = c :: r ∧ c ∈ letters := by
  obtain ⟨c, hc, s, -, hspell, -⟩ := exists_spelling sharps (n.toNat % 12) (by omega)
  exact ⟨c, _, by rw [render, hspell, List.cons_append], hc⟩

/-- A name is written with letters, accidentals, digits and a minus sign. -/
theorem isNameChar_of_mem_render {sharps : Bool} {octaves : OctaveNumbering} {n : UInt8}
    {d : Char} (h : d ∈ render sharps octaves n) : IsNameChar d := by
  obtain ⟨c, hc, s, hs, hspell, -⟩ := exists_spelling sharps (n.toNat % 12) (by omega)
  rw [render, hspell, List.cons_append, List.mem_cons, List.mem_append] at h
  rcases h with rfl | h | h
  · exact Or.inl hc
  · have hall : (writtenSigns sharps).all fun s => s.toList.all (· ∈ ['b', '#', '-']) := by
      cases sharps <;> decide
    exact Or.inr (Or.inl (of_decide_eq_true
      (List.all_eq_true.1 (List.all_eq_true.1 hall s hs) d h)))
  · rcases Number.mem_decimal h with rfl | h
    · exact Or.inr (Or.inl (by decide))
    · exact Or.inr (Or.inr h)

/-- Trimming never takes a part of a name away. -/
theorem isBlank_of_isNameChar {c : Char} (h : IsNameChar c) : Text.isBlank c = false := by
  rcases h with h | h | h
  · exact Text.isBlank_of_mem (by decide) h
  · exact Text.isBlank_of_mem (by decide) h
  · exact Number.isBlank_of_isDigit h

/-- The name of a pitch denotes the semitone and the octave of the pitch. -/
theorem denotes_render (sharps : Bool) (octaves : OctaveNumbering) (n : UInt8) :
    Denotes (render sharps octaves n) (n.toNat % 12) ((n.toNat / 12 : Nat) + octaves.lowest) := by
  -- A pitch has one byte, so its octave is far within 64 bits.
  have hlo : minInt64 ≤ -1 := by decide
  have hhi : 255 ≤ maxInt64 := by decide
  have hlowest : -1 ≤ octaves.lowest ∧ octaves.lowest ≤ 0 := by cases octaves <;> decide
  have hn : n.toNat < 256 := n.toNat_lt
  have hletters : letters ⊆ nameLetters := by decide
  obtain ⟨c, hc, sign, hs, hspell, hsemitone⟩ := exists_spelling sharps (n.toNat % 12) (by omega)
  refine ⟨⟨c, sign, .ofInt ((n.toNat / 12 : Nat) + octaves.lowest), hletters hc,
    mem_signs_of_mem_writtenSigns hs⟩, ?_, hsemitone, Octave.value_ofInt _, by omega, by omega⟩
  rw [render, hspell, Name.text, Octave.text_ofInt, List.cons_append]

/-- The semitone and the octave of a pitch make up the pitch, and no others do. -/
theorem number_eq_toNat_iff (octaves : OctaveNumbering) {k : Nat} (hk : k < 12) (octave : Int)
    (n : UInt8) :
    number octaves k octave = n.toNat ↔
      k = n.toNat % 12 ∧ octave = (n.toNat / 12 : Nat) + octaves.lowest := by
  rw [number_eq]
  omega

/-- A pitch is written as one name. -/
theorem isNameOf_iff {sharps : Bool} {octaves : OctaveNumbering} {n : UInt8} {name : List Char} :
    IsNameOf sharps octaves n name ↔ name = render sharps octaves n := by
  constructor
  · rintro ⟨letter, hletter, sign, hsign, k, octave, rfl, hspell, hnumber⟩
    -- The number of a name determines its semitone and octave, and they its spelling.
    have hk : k < 12 := (List.findIdx?_eq_some_iff_getElem.1 hspell).1
    obtain ⟨rfl, rfl⟩ := (number_eq_toNat_iff octaves hk octave n).1 hnumber
    rw [render, spelling_unique hletter hsign hspell, List.cons_append]
  · rintro rfl
    obtain ⟨c, hc, sign, hs, hspell, hk⟩ := exists_spelling sharps (n.toNat % 12) (by omega)
    refine ⟨c, hc, sign, hs, _, (n.toNat / 12 : Nat) + octaves.lowest, ?_, hk,
      (number_eq_toNat_iff octaves (by omega) _ n).2 ⟨rfl, rfl⟩⟩
    rw [render, hspell, List.cons_append]

/-- The name of a MIDI pitch reads back as the pitch. -/
theorem read_render (sharps : Bool) (octaves : OctaveNumbering) {n : UInt8} (h : n.toNat ≤ 127) :
    read octaves (String.ofList (render sharps octaves n)) = .ok n := by
  have htrim : Text.trim (render sharps octaves n) = render sharps octaves n :=
    Text.trim_eq_self fun c hc => isBlank_of_isNameChar (isNameChar_of_mem_render hc)
  -- The reader trims the name first, which changes nothing here.
  have hdenotes := denotes_render sharps octaves n
  rw [← htrim, ← String.toList_ofList (l := render sharps octaves n)] at hdenotes
  have hnumber := (number_eq_toNat_iff octaves (by omega) _ n).2 ⟨rfl, rfl⟩
  exact read_eq_ok_iff.2 ⟨_, _, hdenotes, hnumber, h⟩

/-- Only MIDI pitches are ever read. -/
theorem le_of_read {octaves : OctaveNumbering} {s : String} {n : UInt8}
    (h : read octaves s = .ok n) : n.toNat ≤ 127 := by
  obtain ⟨k, o, -, -, hn⟩ := read_eq_ok_iff.1 h
  exact hn

/-- The letter of a name that is read is one of ASCII. -/
theorem exists_ascii_of_read {octaves : OctaveNumbering} {s : String} {n : UInt8}
    (h : read octaves s = .ok n) : ∃ c ∈ s.toList, c.toNat < 0x80 := by
  have hall : nameLetters.all fun c => c.toNat < 0x80 := by decide
  obtain ⟨k, o, ⟨name, htrim, -⟩, -⟩ := read_eq_ok_iff.1 h
  have hletter : name.letter ∈ Text.trim s.toList := htrim ▸ List.mem_cons_self
  have hascii := List.all_eq_true.1 hall name.letter name.letter_mem
  exact ⟨name.letter, Text.mem_of_mem_trim hletter, of_decide_eq_true hascii⟩

end VocalScore.PitchName
