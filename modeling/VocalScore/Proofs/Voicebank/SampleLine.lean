import VocalScore.Proofs.Number.RoundTrip
import VocalScore.Proofs.Text.Scanning
import VocalScore.Proofs.Traversal
import VocalScore.Voicebank.SampleTable

/-!
# Lines of a sample table

What a line has to look like to be read as a sample, and what the line of a sample looks like.

## Key results

- `readLine_eq_ok_iff`: a line is a sample if it has a name, `=`, an alias and five numbers
- `readLine_renderLine`: the line of a sample reads back, if its name and alias have no
  separator of their own
- `readLines_eq_mapM`: the lines that are not passed over are read one by one
-/

namespace VocalScore

namespace SampleEntry

open Traversal

/-! ### Reading a line -/

/-- What a field between commas stands for: nothing is zero. -/
def IsNumber (raw : List Char) (x : Float) : Prop :=
  (Text.trim raw = [] ∧ x = 0.0) ∨ (Text.trim raw ≠ [] ∧ Number.read (Text.trim raw) = some x)

/-- A value is read exactly if its text is a number or blank. -/
theorem number_eq_ok_iff {filename field : String} {raw : List Char} {x : Float} :
    number filename field raw = .ok x ↔ IsNumber raw x := by
  simp only [number, IsNumber]
  by_cases h : Text.trim raw = []
  · rw [if_pos h, Except.ok.injEq]
    simp only [h, true_and, ne_eq, not_true_eq_false, false_and, or_false, eq_comm]
  · rw [if_neg h]
    cases Number.read (Text.trim raw) with
    | none => simp [h]
    | some y => simp [h]

/-- A line is a sample if it has a name, `=`, an alias and five numbers. -/
theorem readLine_eq_ok_iff {k : Nat} {line : List Char} {e : SampleEntry} :
    readLine k line = .ok e ↔
      ∃ name values a raws, line = name ++ '=' :: values ∧ '=' ∉ name ∧
        Text.splitOn ',' values = a :: raws ∧ e.filename = String.ofList name ∧
        e.aliasName = String.ofList a ∧ List.Forall₂ IsNumber raws e.numbers := by
  constructor
  · intro h
    -- Every step of the reader has to succeed.
    rw [readLine] at h
    split at h
    · cases h
    next name values hsplit =>
      obtain ⟨rfl, hname⟩ := Text.splitOnce_eq_some.1 hsplit
      simp only at h
      split at h
      next a r1 r2 r3 r4 r5 hfields =>
        obtain ⟨x1, h1, h⟩ := bind_eq_ok_iff.1 h
        obtain ⟨x2, h2, h⟩ := bind_eq_ok_iff.1 h
        obtain ⟨x3, h3, h⟩ := bind_eq_ok_iff.1 h
        obtain ⟨x4, h4, h⟩ := bind_eq_ok_iff.1 h
        obtain ⟨x5, h5, h⟩ := bind_eq_ok_iff.1 h
        cases h
        exact ⟨name, values, a, _, rfl, hname, hfields, rfl, rfl,
          .cons (number_eq_ok_iff.1 h1) (.cons (number_eq_ok_iff.1 h2)
            (.cons (number_eq_ok_iff.1 h3) (.cons (number_eq_ok_iff.1 h4)
              (.cons (number_eq_ok_iff.1 h5) .nil))))⟩
      · cases h
  · rintro ⟨name, values, a, raws, rfl, hname, hfields, hf, ha, hnumbers⟩
    -- Five numbers mean five fields, which is what the reader matches.
    obtain ⟨filename, aliasName, y1, y2, y3, y4, y5⟩ := e
    rcases hnumbers with _ | ⟨h1, h⟩
    rcases h with _ | ⟨h2, h⟩
    rcases h with _ | ⟨h3, h⟩
    rcases h with _ | ⟨h4, h⟩
    rcases h with _ | ⟨h5, h⟩
    cases h
    cases hf
    cases ha
    simp only [readLine, Text.splitOnce_append hname, hfields, number_eq_ok_iff.2 h1,
      number_eq_ok_iff.2 h2, number_eq_ok_iff.2 h3, number_eq_ok_iff.2 h4,
      number_eq_ok_iff.2 h5]
    rfl

/-! ### Writing a line -/

/-- What a sample comes back as: its names, and each number as its text reads. -/
structure ReadsBack (o : SampleTableOptions) (e f : SampleEntry) : Prop where
  filename : f.filename = e.filename
  aliasName : f.aliasName = e.aliasName
  numbers : List.Forall₂ (fun x y => Number.read (Text.trim (renderNumber o x)) = some y)
    e.numbers f.numbers

/-- The text of a number is spaces before one of its texts. -/
theorem exists_isTextOf_renderNumber (o : SampleTableOptions) (x : Float) :
    ∃ s y, Number.IsTextOf x s y ∧ renderNumber o x = Number.padLeft o.width s ∧
      (o.places = none → y = x) := by
  unfold renderNumber
  cases o.places with
  | none => exact ⟨_, x, Number.isTextOf_plain x, rfl, fun _ => rfl⟩
  | some p =>
    obtain ⟨y, hy⟩ := Number.isTextOf_fixed p x
    exact ⟨_, y, hy, rfl, fun h => nomatch h⟩

/-- The text of a number reads as a number, whatever its width, and as the same number if its
places are not fixed. -/
theorem read_renderNumber (o : SampleTableOptions) (x : Float) :
    ∃ y, Number.read (Text.trim (renderNumber o x)) = some y ∧ (o.places = none → y = x) := by
  obtain ⟨s, y, hs, hr, hy⟩ := exists_isTextOf_renderNumber o x
  refine ⟨y, ?_, hy⟩
  -- The width only puts spaces in front, which are trimmed before a number is read.
  rw [hr, Number.padLeft, Text.trim_blank_append (by simp [Text.isBlank]),
    Text.trim_eq_self fun c hc => Number.isBlank_of_isTextChar (hs.isTextChar hc), hs.read_eq]

/-- The text of a number has no characters but spaces and those of numbers. -/
theorem not_mem_renderNumber {o : SampleTableOptions} {x : Float} {c : Char} (hspace : c ≠ ' ')
    (hc : Number.isTextChar c = false) : c ∉ renderNumber o x := by
  obtain ⟨s, y, hs, hr, -⟩ := exists_isTextOf_renderNumber o x
  rw [hr, Number.padLeft, List.mem_append, not_or]
  -- A character is one of the padding or one of the number.
  refine ⟨fun h => hspace (List.eq_of_mem_replicate h), fun h => ?_⟩
  rw [hs.isTextChar h] at hc
  cases hc

/-- Every sample comes back as some sample, and as itself if places are not fixed. -/
theorem exists_readsBack (o : SampleTableOptions) (e : SampleEntry) :
    ∃ f, ReadsBack o e f ∧ (o.places = none → f = e) := by
  obtain ⟨y1, h1, e1⟩ := read_renderNumber o e.offset
  obtain ⟨y2, h2, e2⟩ := read_renderNumber o e.consonant
  obtain ⟨y3, h3, e3⟩ := read_renderNumber o e.cutoff
  obtain ⟨y4, h4, e4⟩ := read_renderNumber o e.preutterance
  obtain ⟨y5, h5, e5⟩ := read_renderNumber o e.overlap
  refine ⟨⟨e.filename, e.aliasName, y1, y2, y3, y4, y5⟩, ⟨rfl, rfl, ?_⟩, fun h => ?_⟩
  · exact .cons h1 (.cons h2 (.cons h3 (.cons h4 (.cons h5 .nil))))
  · rw [e1 h, e2 h, e3 h, e4 h, e5 h]

/-- A written line is a name and six values with commas between them. -/
theorem renderLine_eq (o : SampleTableOptions) (e : SampleEntry) :
    e.renderLine o = e.filename.toList ++
      '=' :: Text.joinWith [','] (e.aliasName.toList :: e.numbers.map (renderNumber o)) := by
  rw [renderLine, Text.joinWith_cons, List.append_assoc, List.cons_append, List.flatMap_map]

/-- A written line is read back. -/
theorem readLine_renderLine {o : SampleTableOptions} {e f : SampleEntry} (k : Nat)
    (hname : '=' ∉ e.filename.toList) (halias : ',' ∉ e.aliasName.toList)
    (h : ReadsBack o e f) : readLine k (e.renderLine o) = .ok f := by
  -- No value has a comma, so the line is cut where it was joined.
  have hfields : ∀ s ∈ e.aliasName.toList :: e.numbers.map (renderNumber o), ',' ∉ s := by
    intro s hs
    rcases List.mem_cons.1 hs with rfl | hs
    · exact halias
    · obtain ⟨x, -, rfl⟩ := List.mem_map.1 hs
      exact not_mem_renderNumber (by decide) (by decide)
  refine readLine_eq_ok_iff.2 ⟨e.filename.toList, _, e.aliasName.toList, _, renderLine_eq o e,
    hname, Text.splitOn_joinWith (List.cons_ne_nil _ _) hfields, ?_, ?_, ?_⟩
  · rw [h.filename, String.ofList_toList]
  · rw [h.aliasName, String.ofList_toList]
  · rw [List.forall₂_map_left_iff]
    -- A written number is never blank, so it is not read as the zero of a missing one.
    refine h.numbers.imp fun x y hxy => Or.inr ⟨fun hnil => ?_, hxy⟩
    rw [hnil] at hxy
    cases hxy

/-- A written line is one line if its names are. -/
theorem newline_not_mem_renderLine {o : SampleTableOptions} {e : SampleEntry}
    (hname : '\n' ∉ e.filename.toList) (halias : '\n' ∉ e.aliasName.toList) :
    '\n' ∉ e.renderLine o := by
  rw [renderLine, List.mem_append, List.mem_append, List.mem_cons, List.mem_flatMap]
  rintro ((h | h | h) | ⟨x, -, h⟩)
  · exact hname h
  · cases h
  · exact halias h
  · rcases List.mem_cons.1 h with h | h
    · cases h
    · exact not_mem_renderNumber (by decide) (by decide) h

/-- The line of a sample ends with a number, which has no carriage return. -/
theorem getLast?_renderLine_ne (o : SampleTableOptions) (e : SampleEntry) :
    (e.renderLine o).getLast? ≠ some '\r' := by
  -- The last number is never empty, since a comma comes before it.
  have hsplit : ∃ s, e.renderLine o = s ++ ',' :: renderNumber o e.overlap :=
    ⟨e.filename.toList ++ '=' :: e.aliasName.toList ++
      [e.offset, e.consonant, e.cutoff, e.preutterance].flatMap fun x => ',' :: renderNumber o x,
      by simp [renderLine, numbers]⟩
  obtain ⟨s, hs⟩ := hsplit
  rw [hs, List.getLast?_append_of_ne_nil _ (List.cons_ne_nil _ _)]
  intro h
  rcases List.mem_cons.1 (List.mem_of_getLast? h) with h | h
  · cases h
  · exact not_mem_renderNumber (by decide) (by decide) h

end SampleEntry

namespace SampleTable

open Traversal

/-- The lines that are not passed over are read one by one, in their order. -/
theorem readLines_eq_mapM (o : SampleTableOptions) (t : SampleTable) (n : Nat)
    (ls : List (List Char)) :
    readLines o t n ls =
      ((kept (isSkipped o.comment) n ls).mapM fun p => SampleEntry.readLine p.2 p.1).map
        (·.foldl push t) :=
  numbered_eq_mapM (fun _ _ => rfl) (fun _ _ _ _ => rfl) t n ls

end SampleTable

end VocalScore
