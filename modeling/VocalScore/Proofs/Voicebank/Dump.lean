import VocalScore.Proofs.Score.Dump
import VocalScore.Voicebank.Json

/-!
# Sample tables that are dumped as JSON

The five numbers of a sample have to be there, so a dump of a table with a number that is not
finite is not read. Otherwise its entries come back in their order, and with them the table.

## Key results

- `SampleTable.ofJson?_toJson`: what a dump of a table is read as
- `read_dump`: what comes back from the dump of a score or a table that was read
-/

namespace VocalScore

open Json (Written Exact)
open Traversal (ite_bind ite_ite_none)

theorem SampleEntry.written_toJson (e : SampleEntry) : Written e.toJson :=
  Json.written_record (by simp)

/-- An entry is read back unless one of its numbers is not finite. -/
theorem SampleEntry.ofJson?_toJson {e : SampleEntry} (h : Exact e.numbers) :
    ofJson? e.toJson = if e.numbers.all Float.isFinite then some e else none := by
  have hreal : ∀ x ∈ e.numbers, (Json.real x).real? = if x.isFinite then some x else none :=
    fun x hx => Json.real?_real h hx
  simp only [numbers, List.mem_cons, List.not_mem_nil, or_false, forall_eq_or_imp, forall_eq]
    at hreal
  obtain ⟨hoffset, hconsonant, hcutoff, hpreutterance, hoverlap⟩ := hreal
  -- Two strings, which always come back, and the five numbers, each of them required.
  rw [ofJson?, toJson, Json.slots?_record (by decide) rfl]
  simp only [List.map_cons, List.map_nil, Option.bind_eq_bind, Option.bind_some, Slot.required,
    Json.text?_text, hoffset, hconsonant, hcutoff, hpreutterance, hoverlap, ite_bind,
    ite_ite_none, Option.pure_def]
  simp [numbers]

namespace SampleTable

/-- The numbers of a table. -/
def numbers (t : SampleTable) : List Float := t.toList.flatMap SampleEntry.numbers

theorem written_toJson (t : SampleTable) : Written t.toJson :=
  Json.written_list fun e _ => e.written_toJson

/-- A table is read back unless one of its numbers is not finite. -/
theorem ofJson?_toJson {t : SampleTable} (h : Exact t.numbers) :
    ofJson? t.toJson = if t.numbers.all Float.isFinite then some t else none := by
  -- One entry that is not read back is enough for the list to be lost.
  have hentries := Json.list?_list (l := t.toList) (p := fun e => e.numbers.all Float.isFinite)
    (k := id) fun e he => SampleEntry.ofJson?_toJson
      (h.of_subset fun x hx => List.mem_flatMap.2 ⟨e, he, hx⟩)
  have hsame : ofList t.toList = t := ext (toList_ofList t.toList)
  rw [ofJson?, toJson, hentries, List.map_id, numbers, List.all_flatMap]
  split
  · exact congrArg some hsame
  · rfl

/-- So is its text. -/
theorem read_toJson {t : SampleTable} (h : Exact t.numbers) :
    (Json.read t.toJson.render).bind ofJson? =
      if t.numbers.all Float.isFinite then some t else none := by
  rw [Json.read_render t.written_toJson, Option.bind_some, ofJson?_toJson h]

/-- A text with one line that is not passed over is a table of one entry. -/
theorem read_line {o : SampleTableOptions} {s : String} {line : List Char} {e : SampleEntry}
    (hs : Text.lines (Text.dropMark s.toList) = [line]) (hskip : isSkipped o.comment line = false)
    (h : SampleEntry.readLine 1 line = .ok e) : read o s = .ok (ofList [e]) := by
  -- The index is never compared: it follows from the entry.
  rw [read, hs, readLines, readLine, hskip, h]
  rfl

end SampleTable

/-- What was read comes back from its dump, up to numbers that are not finite. A score comes back
without the optional ones among them and not at all if there are others; a sample table, whose
numbers are all required, comes back only if each is finite. -/
theorem read_dump (o : SampleTableOptions) (text : String) :
    (∀ s, Score.read text = .ok s → Exact s.numbers →
      (Json.read s.toJson.render).bind Score.ofJson? =
          (if s.notes.all (·.plainNumbers.all Float.isFinite) then some s.withoutNonFinite
            else none) ∧
        ((Json.read s.toJson.render).bind Score.ofJson? = some s ↔
          ∀ x ∈ s.numbers, x.isFinite = true)) ∧
    (∀ t, SampleTable.read o text = .ok t → Exact t.numbers →
      (Json.read t.toJson.render).bind SampleTable.ofJson? =
          (if t.numbers.all Float.isFinite then some t else none) ∧
        ((Json.read t.toJson.render).bind SampleTable.ofJson? = some t ↔
          ∀ x ∈ t.numbers, x.isFinite = true)) := by
  constructor
  · -- The tempo of a score that was read is finite, so the other numbers decide.
    intro s hread hexact
    have htempo := Score.isFinite_tempo hread
    have hback := Score.read_toJson htempo hexact
    refine ⟨hback, ?_⟩
    rw [hback, Score.forall_isFinite_iff htempo]
    split
    next hplain => simp only [Option.some.injEq, hplain, true_and]
    next hplain => simp [hplain]
  · intro t _ hexact
    have hback := SampleTable.read_toJson hexact
    refine ⟨hback, ?_⟩
    rw [hback, ← List.all_eq_true]
    split
    next hall => simp only [hall]
    next hall => simp [hall]

/-- A score and a table of finite numbers come back as they are. -/
theorem read_dump_finite :
    (∃ s, Score.read
        "[#SETTING]\nTempo=120\nMode2=1\n[#0]\nLength=1\nNoteNum=60\nLyric=a\nPreUtterance=0.5\n" =
          .ok s ∧ Exact s.numbers ∧ (∀ x ∈ s.numbers, x.isFinite = true) ∧
        (Json.read s.toJson.render).bind Score.ofJson? = some s) ∧
      ∃ t, SampleTable.read {} "a.wav=a,1.5,,,2,\n" = .ok t ∧ Exact t.numbers ∧
        (∀ x ∈ t.numbers, x.isFinite = true) ∧
        (Json.read t.toJson.render).bind SampleTable.ofJson? = some t := by
  constructor
  · have hread : Score.read
        "[#SETTING]\nTempo=120\nMode2=1\n[#0]\nLength=1\nNoteNum=60\nLyric=a\nPreUtterance=0.5\n" =
          .ok ⟨.v1_2, { Settings.plain 120.0 with mode2 := true },
            [{ Note.plain 1 "a" 60 with preUtterance := some 0.5 }]⟩ := by decide +kernel
    refine ⟨_, hread, by decide +kernel, by decide +kernel, ?_⟩
    exact ((read_dump {} _).1 _ hread (by decide +kernel)).2.2 (by decide +kernel)
  · -- A table cannot be compared by `decide`, for its index; the line can.
    have hline : SampleEntry.readLine 1 "a.wav=a,1.5,,,2,".toList =
        .ok ⟨"a.wav", "a", 1.5, 0.0, 0.0, 2.0, 0.0⟩ := by decide +kernel
    have hread := SampleTable.read_line (o := {}) (s := "a.wav=a,1.5,,,2,\n") (by decide +kernel)
      (by decide +kernel) hline
    refine ⟨_, hread, by decide +kernel, by decide +kernel, ?_⟩
    exact ((read_dump {} _).2 _ hread (by decide +kernel)).2.2 (by decide +kernel)

/-- A timing value that is infinite has gone when its score comes back from its dump, and a table
with a number that is none does not come back. -/
theorem read_dump_ne :
    (∃ s s', Score.read
        "[#SETTING]\nTempo=120\nMode2=1\n[#0]\nLength=1\nNoteNum=60\nLyric=a\nPreUtterance=inf\n" =
          .ok s ∧ (Json.read s.toJson.render).bind Score.ofJson? = some s' ∧
        s.notes.map (·.preUtterance.isSome) = [true] ∧
        s'.notes.map (·.preUtterance.isSome) = [false]) ∧
      ∃ t, SampleTable.read {} "a.wav=a,nan,,,,\n" = .ok t ∧
        (Json.read t.toJson.render).bind SampleTable.ofJson? = none := by
  constructor
  · refine ⟨⟨.v1_2, { Settings.plain 120.0 with mode2 := true },
      [{ Note.plain 1 "a" 60 with preUtterance := some (1.0 / 0.0) }]⟩, _, by decide +kernel,
      (Score.read_toJson (by decide +kernel) (by decide +kernel)).trans
        (if_pos (by decide +kernel)), by decide +kernel, by decide +kernel⟩
  · have hline : SampleEntry.readLine 1 "a.wav=a,nan,,,,".toList =
        .ok ⟨"a.wav", "a", 0.0 / 0.0, 0.0, 0.0, 0.0, 0.0⟩ := by decide +kernel
    refine ⟨_, SampleTable.read_line (by decide +kernel) (by decide +kernel) hline,
      (SampleTable.read_toJson (by decide +kernel)).trans (if_neg (by decide +kernel))⟩

end VocalScore
