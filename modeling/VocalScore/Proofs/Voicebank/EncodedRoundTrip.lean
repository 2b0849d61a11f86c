import VocalScore.Encoding.Declared
import VocalScore.Proofs.Encoding.Output
import VocalScore.Proofs.Voicebank.PrefixRoundTrip
import VocalScore.Proofs.Voicebank.SampleRoundTrip

/-!
# When the bytes of a sample table or a prefix map read back

The bytes that are written are those of the text in the encoding in which it is really written,
and read back there. In an encoding that is only ever read they make other characters, none of
them of ASCII, so that nothing of a table or a map is found again.

## Key results

- `SampleTable.decode_output_encode` / `PrefixMap.decode_output_encode`: bytes are read back in the
  encoding in which they were written
- `SampleTable.toList_eq_nil_of_decode` / `PrefixMap.entries_eq_nil_of_decode`: in an encoding that
  is never written they hold nothing
- `decode_encode_iff_output`: bytes read back exactly in the encodings that are written
-/

namespace VocalScore

namespace Text

/-- A printable character of ASCII. -/
def IsPrintable (c : Char) : Prop := 0x20 ≤ c.toNat ∧ c.toNat ≤ 0x7E

instance (c : Char) : Decidable (IsPrintable c) := inferInstanceAs (Decidable (_ ∧ _))

/-- A text of printable ASCII. -/
def Printable (s : String) : Prop := ∀ c ∈ s.toList, IsPrintable c

instance (s : String) : Decidable (Printable s) :=
  decidable_of_iff (s.toList.all fun c => decide (IsPrintable c)) (by simp [Printable])

/-- A printable character is written as its code by every encoding. -/
theorem IsPrintable.isPlain {c : Char} (h : IsPrintable c) : Encoding.isPlain c = true := by
  obtain ⟨hlo, hhi⟩ := h
  -- The three shifts are below the range of printable characters.
  have hshift : Iso2022Jp.isShift c.toNat = false := by
    simp only [Iso2022Jp.isShift, Iso2022Jp.escape, Bool.or_eq_false_iff, decide_eq_false_iff_not]
    exact ⟨⟨by omega, by omega⟩, decide_eq_false (by omega)⟩
  rw [Encoding.isPlain, hshift, decide_eq_true (by omega)]
  rfl

/-- The characters of written floats are printable. -/
theorem isPrintable_of_isTextChar {c : Char} (h : Number.isTextChar c = true) :
    IsPrintable c := by
  rw [Number.isTextChar, Bool.or_eq_true, List.contains_iff_mem] at h
  rcases h with h | h
  · -- A digit, or one of the letters and signs of a float.
    have hrange : 48 ≤ c.val ∧ c.val ≤ 57 := by simpa [Char.isDigit] using h
    have hlo : 48 ≤ c.toNat := hrange.1
    have hhi : c.toNat ≤ 57 := hrange.2
    exact ⟨by omega, by omega⟩
  · have hall : ['.', '-', 'N', 'a', 'i', 'n', 'f'].all (fun d => decide (IsPrintable d)) := by
      decide
    exact of_decide_eq_true (List.all_eq_true.1 hall c h)

end Text

open Text

/-! ### Sample tables -/

namespace SampleEntry

/-- An entry with names of printable ASCII. -/
structure PrintableNames (e : SampleEntry) : Prop where
  filename : Printable e.filename
  aliasName : Printable e.aliasName

/-- A written number is printable. -/
theorem isPrintable_of_mem_renderNumber {o : SampleTableOptions} {x : Float} {c : Char}
    (h : c ∈ renderNumber o x) : IsPrintable c := by
  -- A space comes from the width of the field, all else from the number.
  by_cases hspace : c = ' '
  · rw [hspace]
    decide
  · apply isPrintable_of_isTextChar
    by_contra htext
    exact not_mem_renderNumber hspace (by simpa using htext) h

/-- A written line is printable if its names are. -/
theorem isPrintable_of_mem_renderLine {o : SampleTableOptions} {e : SampleEntry}
    (he : e.PrintableNames) {c : Char} (h : c ∈ e.renderLine o) : IsPrintable c := by
  rw [renderLine, List.mem_append, List.mem_append, List.mem_cons, List.mem_flatMap] at h
  rcases h with (h | rfl | h) | ⟨x, -, h⟩
  · exact he.filename c h
  · decide
  · exact he.aliasName c h
  · rcases List.mem_cons.1 h with rfl | h
    · decide
    · exact isPrintable_of_mem_renderNumber h

end SampleEntry

namespace SampleTable

open Traversal SampleEntry

variable {o : SampleTableOptions} {t u : SampleTable}

/-- The text of a table with printable names is printable but for its newlines. -/
theorem mem_render (h : ∀ e ∈ t.toList, e.PrintableNames) {c : Char} (hc : c ∈ t.render o) :
    c = '\n' ∨ IsPrintable c := by
  obtain ⟨e, he, hc⟩ := List.mem_flatMap.1 hc
  rcases List.mem_append.1 hc with hc | hc
  · exact Or.inr (isPrintable_of_mem_renderLine (h e he) hc)
  · exact Or.inl (List.mem_singleton.1 hc)

/-- A written table has no characters but printable ones and newlines. -/
theorem not_mem_render (h : ∀ e ∈ t.toList, e.PrintableNames) {c : Char} (hn : c ≠ '\n')
    (hc : ¬IsPrintable c) : c ∉ t.render o :=
  fun hmem => (mem_render h hmem).elim hn hc

/-- A table with printable names and without comments comes back from the encoding in which it is
written. -/
theorem decode_output_encode (hcomment : o.comment = none) (hsep : ∀ e ∈ t.toList, e.Separate)
    (hprint : ∀ e ∈ t.toList, e.PrintableNames) :
    ∃ u, decode { o with encoding := o.encoding.output } (t.encode o) = .ok u ∧
      List.Forall₂ (ReadsBack o) t.toList u.toList ∧ (o.places = none → u = t) := by
  -- No text of the table starts with a mark.
  have hmark : ¬IsPrintable '\uFEFF' := by decide
  have htext : o.encoding.output.decode (t.encode o) = t.render o := by
    refine Encoding.decode_output_encode (fun h => ?_) fun c hc => Or.inr ?_
    · exact not_mem_render hprint (by decide) hmark (List.mem_of_mem_head? h)
    · rcases mem_render hprint hc with rfl | hc
      · decide
      · exact hc.isPlain
  have hseparable : Separable { o with encoding := o.encoding.output } t.toList := by
    refine ⟨hsep, fun e he h => ?_, fun e _ c hc => ?_⟩
    · exact hmark ((hprint e (List.mem_of_mem_head? he)).filename _ (List.mem_of_mem_head? h))
    · rw [hcomment] at hc
      cases hc
  choose f hf hself using exists_readsBack o
  -- The encoding has no part in what a number is written as.
  have hback : List.Forall₂ (ReadsBack { o with encoding := o.encoding.output }) t.toList
      (t.toList.map f) := by
    rw [List.forall₂_map_right_iff, List.forall₂_same]
    exact fun e _ => ⟨(hf e).filename, (hf e).aliasName, (hf e).numbers⟩
  obtain ⟨u, hu, hlist⟩ := read_render_of_separable hseparable hback
  refine ⟨u, ?_, ?_, fun hplaces => ?_⟩
  · rw [decode, htext]
    exact hu
  · rw [hlist, List.forall₂_map_right_iff, List.forall₂_same]
    exact fun e _ => hf e
  · apply SampleTable.ext
    rw [hlist, List.map_congr_left fun e _ => hself e hplaces, List.map_id']

/-- A text without ASCII has no entry, since an entry has `=`. -/
theorem toList_eq_nil_of_read {text : String} (h : read o text = .ok u)
    (hfar : ∀ c ∈ text.toList, 0x100 ≤ c.toNat) : u.toList = [] := by
  rw [List.eq_nil_iff_forall_not_mem]
  intro e he
  obtain ⟨⟨line, k⟩, hmem, hread⟩ := exists_mem_of_forall₂ (forall₂_of_readLines h) he
  obtain ⟨name, values, -, -, hcut, -⟩ := readLine_eq_ok_iff.1 hread
  have hline := List.fst_mem_of_mem_zipIdx (List.mem_filter.1 hmem).1
  -- The line of an entry has an ASCII character, but the text has none.
  have hequals : '=' ∈ (line, k).1 := by
    rw [hcut]
    simp
  exact absurd (hfar '=' (mem_of_mem_dropMark (mem_of_mem_lines hline hequals))) (by decide)

/-- What is decoded otherwise than it was encoded has no entry. -/
theorem toList_eq_nil_of_decode (hprint : ∀ e ∈ t.toList, e.PrintableNames)
    (houtput : o.encoding.output ≠ o.encoding) (h : decode o (t.encode o) = .ok u) :
    u.toList = [] := by
  -- Decoded otherwise, only a null could make an ASCII character, and no name has one.
  have hnull : '\x00' ∉ t.render o := not_mem_render hprint (by decide) (by decide)
  refine toList_eq_nil_of_read h fun c hc => ?_
  rw [String.toList_ofList] at hc
  exact Encoding.le_of_mem_decode_encode houtput hnull hc

end SampleTable

/-! ### Prefix maps -/

namespace PrefixMap

open Traversal

variable {o : PrefixMapOptions} {m n : PrefixMap}

/-- A map with text of printable ASCII. -/
def PrintableAffixes (m : PrefixMap) : Prop :=
  ∀ e ∈ m.entries, Printable e.2.before ∧ Printable e.2.after

/-- The characters of pitch names are printable. -/
theorem isPrintable_of_isNameChar {c : Char} (h : PitchName.IsNameChar c) : IsPrintable c := by
  -- All characters but the digits can be listed.
  have hall : (PitchName.letters ++ ['b', '#', '-']).all fun d => decide (IsPrintable d) := by
    decide
  have hmem : ∀ {d}, d ∈ PitchName.letters ++ ['b', '#', '-'] → IsPrintable d :=
    fun hd => of_decide_eq_true (List.all_eq_true.1 hall _ hd)
  rcases h with h | h | h
  · exact hmem (List.mem_append_left _ h)
  · exact hmem (List.mem_append_right _ h)
  · exact isPrintable_of_isTextChar (by rw [Number.isTextChar, h, Bool.true_or])

/-- The text of a map with printable text is printable but for its newlines and delimiters. -/
theorem mem_render (h : m.PrintableAffixes) {c : Char} (hc : c ∈ m.render o) :
    c = '\n' ∨ c = o.delimiter ∨ IsPrintable c := by
  rw [render_eq_flatMap] at hc
  obtain ⟨line, hline, hc⟩ := List.mem_flatMap.1 hc
  obtain ⟨e, he, rfl⟩ := List.mem_map.1 hline
  obtain ⟨hbefore, hafter⟩ := h e (mem_inOrder.1 he)
  simp only [renderBinding, List.mem_append, List.mem_cons, List.not_mem_nil, or_false] at hc
  rcases hc with ((hc | hc | hc) | hc | hc) | hc
  · exact Or.inr (Or.inr (isPrintable_of_isNameChar (PitchName.isNameChar_of_mem_render hc)))
  · exact Or.inr (Or.inl hc)
  · exact Or.inr (Or.inr (hbefore c hc))
  · exact Or.inr (Or.inl hc)
  · exact Or.inr (Or.inr (hafter c hc))
  · exact Or.inl hc

/-- A tidy map of printable text comes back from the encoding in which it is written, if that
encoding has the delimiter. -/
theorem decode_output_encode (ho : o.Unambiguous) (hdelimiter : o.encoding.Carries o.delimiter)
    (h : m.Tidy o.delimiter) (hprint : m.PrintableAffixes) :
    decode { o with encoding := o.encoding.output } (m.encode o) = .ok m := by
  have htext : o.encoding.output.decode (m.encode o) = m.render o := by
    refine Encoding.decode_output_encode (head?_render_ne o m) fun c hc => ?_
    rcases mem_render hprint hc with rfl | rfl | hc
    · exact Or.inr (by decide)
    · exact hdelimiter
    · exact Or.inr hc.isPlain
  have ho' : PrefixMapOptions.Unambiguous { o with encoding := o.encoding.output } :=
    ⟨ho.newline, ho.carriageReturn, ho.name, ho.comment⟩
  rw [decode, htext]
  exact read_render ho' h

/-- A text without ASCII has no binding, since a binding has the letter of its pitch. -/
theorem entries_eq_nil_of_read {text : String} (h : read o text = .ok n)
    (hfar : ∀ c ∈ text.toList, 0x100 ≤ c.toNat) : n.entries = [] := by
  rw [read, readLines_eq_mapM] at h
  obtain ⟨es, hes, rfl⟩ := map_eq_ok_iff.1 h
  rw [List.eq_nil_iff_forall_not_mem]
  intro e he
  obtain ⟨⟨line, k⟩, hmem, hread⟩ :=
    exists_mem_of_forall₂ (mapM_eq_ok_iff.1 hes) (mem_of_mem_ofList he)
  obtain ⟨name, before, after, hcut, -, -, hname, -⟩ := readBinding_eq_ok_iff.1 hread
  have hline := List.fst_mem_of_mem_zipIdx (List.mem_filter.1 hmem).1
  -- A pitch has an ASCII character, but no character of this text is one.
  obtain ⟨c, hc, hascii⟩ := PitchName.exists_ascii_of_read hname
  rw [String.toList_ofList] at hc
  have hmem : c ∈ (line, k).1 := by
    rw [hcut]
    simp [hc]
  have hbeyond := hfar c (mem_of_mem_dropMark (mem_of_mem_lines hline hmem))
  omega

/-- What is decoded otherwise than it was encoded has no binding. -/
theorem entries_eq_nil_of_decode (hnull : o.delimiter ≠ '\x00') (hprint : m.PrintableAffixes)
    (houtput : o.encoding.output ≠ o.encoding) (h : decode o (m.encode o) = .ok n) :
    n.entries = [] := by
  -- Here the delimiter may be any character, so that it is no null is an assumption.
  have hnone : '\x00' ∉ m.render o := by
    intro hmem
    rcases mem_render hprint hmem with hc | hc | hc
    · exact absurd hc (by decide)
    · exact hnull hc.symm
    · exact absurd hc (by decide)
  refine entries_eq_nil_of_read h fun c hc => ?_
  rw [String.toList_ofList] at hc
  exact Encoding.le_of_mem_decode_encode houtput hnone hc

end PrefixMap

/-! ### Both -/

/-- Names and affixes of printable ASCII survive being written in an encoding and read again in
the encoding that was really written. They survive being read in the encoding that was asked for
exactly if it is that one, or nothing was written; it is not for UTF-16 and `replacement`. -/
theorem decode_encode_iff_output (o : SampleTableOptions) (t : SampleTable)
    (p : PrefixMapOptions) (m : PrefixMap) :
    (o.comment = none → (∀ e ∈ t.toList, e.Separate) →
      (∀ e ∈ t.toList, e.PrintableNames) →
      (∃ u, SampleTable.decode { o with encoding := o.encoding.output } (t.encode o) = .ok u ∧
        List.Forall₂ (SampleEntry.ReadsBack o) t.toList u.toList ∧ (o.places = none → u = t)) ∧
      ((∃ u, SampleTable.decode o (t.encode o) = .ok u ∧
        List.Forall₂ (SampleEntry.ReadsBack o) t.toList u.toList) ↔
          o.encoding.output = o.encoding ∨ t.toList = [])) ∧
    (p.Unambiguous → p.delimiter ≠ '\x00' → p.encoding.Carries p.delimiter →
      m.Tidy p.delimiter → m.PrintableAffixes →
      PrefixMap.decode { p with encoding := p.encoding.output } (m.encode p) = .ok m ∧
      (PrefixMap.decode p (m.encode p) = .ok m ↔
        p.encoding.output = p.encoding ∨ m.entries = [])) := by
  refine ⟨fun hcomment hsep hprint => ?_, fun hp hnull hdelimiter h hprint => ?_⟩
  · have hback := SampleTable.decode_output_encode hcomment hsep hprint
    refine ⟨hback, ⟨?_, ?_⟩⟩
    · -- With another output nothing is read back, so there was nothing to write.
      rintro ⟨u, hu, hall⟩
      by_cases houtput : o.encoding.output = o.encoding
      · exact Or.inl houtput
      · rw [SampleTable.toList_eq_nil_of_decode hprint houtput hu] at hall
        exact Or.inr (List.forall₂_nil_right_iff.1 hall)
    · rintro (houtput | hnil)
      · obtain ⟨u, hu, hall, -⟩ := hback
        rw [houtput] at hu
        exact ⟨u, hu, hall⟩
      · -- Nothing is encoded as nothing, and nothing is read as the empty table.
        refine ⟨SampleTable.empty, ?_, ?_⟩
        · rw [SampleTable.encode, SampleTable.render, hnil, List.flatMap_nil, SampleTable.decode,
            Encoding.decode_encode_nil]
          rfl
        · rw [hnil]
          exact .nil
  · have hback := PrefixMap.decode_output_encode hp hdelimiter h hprint
    refine ⟨hback, ⟨fun hm => ?_, ?_⟩⟩
    · by_cases houtput : p.encoding.output = p.encoding
      · exact Or.inl houtput
      · exact Or.inr (PrefixMap.entries_eq_nil_of_decode hnull hprint houtput hm)
    · rintro (houtput | hnil)
      · rwa [houtput] at hback
      · have hempty : m = PrefixMap.empty := PrefixMap.ext hnil
        have hrender : PrefixMap.empty.render p = [] := by
          have hlines : PrefixMap.inOrder p PrefixMap.empty = [] :=
            (PrefixMap.inOrder_perm p PrefixMap.empty).eq_nil
          rw [PrefixMap.render_eq_flatMap, hlines]
          rfl
        rw [hempty, PrefixMap.encode, hrender, PrefixMap.decode, Encoding.decode_encode_nil]
        rfl

/-- A sample with plain names. -/
def plainSample : SampleEntry := ⟨"a.wav", "a ka", 1, 2, 3, 4, 5⟩

/-- A map with plain text. -/
def plainMap : PrefixMap := PrefixMap.empty.insert 60 ⟨"", "C5"⟩

/-- The names of this sample are printable and apart from the delimiters. -/
theorem plainSample_names :
    ∀ e ∈ (SampleTable.ofList [plainSample]).toList, e.Separate ∧ e.PrintableNames := by
  intro e he
  rw [SampleTable.toList_ofList, List.mem_singleton] at he
  rw [he]
  exact ⟨⟨by decide, by decide, by decide, by decide⟩, ⟨by decide, by decide⟩⟩

/-- ISO-2022-JP is written, so a table comes back from it; a map that was asked for in UTF-16 comes
back from UTF-8. -/
theorem decode_encode_iso2022Jp :
    (∀ e ∈ (SampleTable.ofList [plainSample]).toList, e.Separate ∧ e.PrintableNames) ∧
    PrefixMapOptions.Unambiguous { encoding := .utf16le } ∧
    plainMap.Tidy '\t' ∧ plainMap.PrintableAffixes ∧
    (∃ u, SampleTable.decode { encoding := .iso2022Jp }
      ((SampleTable.ofList [plainSample]).encode { encoding := .iso2022Jp }) = .ok u) ∧
    PrefixMap.decode { encoding := .utf8 } (plainMap.encode { encoding := .utf16le }) =
      .ok plainMap := by
  have hnames := plainSample_names
  have ho : PrefixMapOptions.Unambiguous { encoding := .utf16le } := by
    refine ⟨by decide, by decide, by unfold PitchName.IsNameChar; decide, ?_⟩
    rintro c hc ⟨⟩
    exact absurd hc (by decide)
  have htidy : plainMap.Tidy '\t' := by
    intro e he
    rw [List.mem_singleton.1 he]
    exact ⟨by decide, ⟨by decide, by decide⟩, ⟨by decide, by decide⟩, by decide⟩
  have hprint : plainMap.PrintableAffixes := by
    intro e he
    rw [List.mem_singleton.1 he]
    exact ⟨by decide, by decide⟩
  have hboth := decode_encode_iff_output { encoding := .iso2022Jp }
    (SampleTable.ofList [plainSample]) { encoding := .utf16le } plainMap
  obtain ⟨u, hu, -⟩ := (hboth.1 rfl (fun e he => (hnames e he).1)
    fun e he => (hnames e he).2).2.2 (Or.inl rfl)
  have hm := (hboth.2 ho (by decide) (Or.inl rfl) htidy hprint).1
  exact ⟨hnames, ho, htidy, hprint, ⟨u, hu⟩, hm⟩

/-- A table and a map that are written in UTF-16, as its label asks for, do not come back. -/
theorem decode_encode_utf16_ne :
    Encoding.ofText? "utf-16le".toList = some .utf16le ∧
    SampleTable.decode { encoding := .utf16le }
      ((SampleTable.ofList [plainSample]).encode { encoding := .utf16le }) ≠
        .ok (SampleTable.ofList [plainSample]) ∧
    PrefixMap.decode { encoding := .utf16le } (plainMap.encode { encoding := .utf16le }) ≠
      .ok plainMap := by
  have hutf16 : Encoding.utf16le.output ≠ .utf16le := by decide
  refine ⟨by decide, fun h => ?_, fun h => ?_⟩
  · have hnil := SampleTable.toList_eq_nil_of_decode (fun e he => (plainSample_names e he).2)
      hutf16 h
    rw [SampleTable.toList_ofList] at hnil
    cases hnil
  · have hnil := PrefixMap.entries_eq_nil_of_decode (by decide) ?_ hutf16 h
    · cases hnil
    · intro e he
      rw [List.mem_singleton.1 he]
      exact ⟨by decide, by decide⟩

end VocalScore
