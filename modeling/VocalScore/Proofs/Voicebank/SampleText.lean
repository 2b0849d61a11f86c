import VocalScore.Proofs.Voicebank.LiveLines
import VocalScore.Proofs.Voicebank.SampleRoundTrip

/-!
# Texts of sample tables, line by line

A text of samples is read if each of its live lines is a sample, and then has the samples of these
lines in their order. Otherwise its error is that of the first live line that is no sample, and
that is the first thing that is wrong with this line, from the left to the right. What a line is
does not depend on any other, so two texts one after the other are read as two tables one after
the other.

## Key results

- `SampleEntry.readLine_eq_error_iff`: what is wrong with a line
- `SampleEntry.readLine_add`: a line is read alike under any number, but for the number in its error
- `read_eq_mapM`: the live lines are read one by one
- `read_append`: two texts one after the other
- `read_linewise`: all of these for the text as a whole
-/

namespace VocalScore

open Traversal

namespace SampleEntry

/-! ### Lines -/

/-- A line is that of a sample: a name, `=`, an alias and five numbers. -/
def Describes (line : List Char) (e : SampleEntry) : Prop :=
  ∃ name values a raws, line = name ++ '=' :: values ∧ '=' ∉ name ∧
    Text.splitOn ',' values = a :: raws ∧ e.filename = String.ofList name ∧
    e.aliasName = String.ofList a ∧ List.Forall₂ IsNumber raws e.numbers

/-- A line has the form of a sample: after its first `=` there are five commas, and a number or
nothing after each of them. -/
def IsSample (line : List Char) : Prop :=
  ∃ name values a raws, line = name ++ '=' :: values ∧ '=' ∉ name ∧
    values.count ',' = 5 ∧ Text.splitOn ',' values = a :: raws ∧ ∀ raw ∈ raws, ∃ x, IsNumber raw x

/-- The five numbers of a line in their order, as errors name them. -/
def numberNames : List String := ["offset", "consonant", "cutoff", "preutterance", "overlap"]

/-- What is wrong with a line: it has no `=`, or else not five commas after the first one, or else
a field that is no number, of which the first counts. -/
inductive Faulty (k : Nat) (line : List Char) : VoicebankError → Prop
  | separator (h : '=' ∉ line) : Faulty k line (.missingSeparator k)
  | length {name values : List Char} (hline : line = name ++ '=' :: values) (hname : '=' ∉ name)
      (h : values.count ',' ≠ 5) :
      Faulty k line (.entryLength (String.ofList name) (values.count ',' + 1))
  | number {name values a : List Char} {raws : List (List Char)}
      {before after : List (String × List Char)} {field : String} {raw : List Char}
      (hline : line = name ++ '=' :: values) (hname : '=' ∉ name) (hcount : values.count ',' = 5)
      (hfields : Text.splitOn ',' values = a :: raws)
      (hzip : numberNames.zip raws = before ++ (field, raw) :: after)
      (hbefore : ∀ p ∈ before, ∃ x, IsNumber p.2 x) (h : ∀ x, ¬IsNumber raw x) :
      Faulty k line (.entryValue field (String.ofList name) (String.ofList (Text.trim raw)))

/-- The error of a value has its field, the file name, and the text without white space. -/
theorem number_eq_error_iff {filename field : String} {raw : List Char} {e : VoicebankError} :
    number filename field raw = .error e ↔
      (∀ x, ¬IsNumber raw x) ∧ e = .entryValue field filename (String.ofList (Text.trim raw)) := by
  simp only [number, IsNumber]
  by_cases h : Text.trim raw = []
  · simp [h]
  · cases Number.read (Text.trim raw) with
    | none => simp [h, eq_comm]
    | some x => simp [h]

/-- The number of values is one more than that of the commas. -/
theorem length_raws {values a : List Char} {raws : List (List Char)}
    (h : Text.splitOn ',' values = a :: raws) : raws.length = values.count ',' := by
  have hlength := Text.length_splitOn ',' values
  rw [h, List.length_cons] at hlength
  exact Nat.succ.inj hlength

/-- The numbers of a line are read one after the other. -/
theorem readLine_eq_error_iff_of_fields {k : Nat} {name values a : List Char}
    {raws : List (List Char)} {e : VoicebankError} (hname : '=' ∉ name)
    (hfields : Text.splitOn ',' values = a :: raws) (hlength : raws.length = 5) :
    readLine k (name ++ '=' :: values) = .error e ↔
      ((numberNames.zip raws).mapM fun p => number (String.ofList name) p.1 p.2) = .error e := by
  -- The reader binds its five numbers in turn, as a traversal of five items does.
  match raws, hlength with
  | [r1, r2, r3, r4, r5], _ =>
    simp only [readLine, Text.splitOnce_append hname, hfields, numberNames, List.zip_cons_cons,
      List.zip_nil_left, mapM_cons, List.mapM_nil, bind, bind_eq_error_iff, map_eq_error_iff,
      pure, Except.pure, reduceCtorEq, and_false, exists_false, or_false]

/-- A line without exactly five commas has the wrong number of values. -/
theorem readLine_of_count_ne {k : Nat} {name values : List Char} (hname : '=' ∉ name)
    (h : values.count ',' ≠ 5) :
    readLine k (name ++ '=' :: values) =
      .error (.entryLength (String.ofList name) (values.count ',' + 1)) := by
  rw [← Text.length_splitOn]
  simp only [readLine, Text.splitOnce_append hname]
  -- The reader matches an alias and five values, for which five commas are needed.
  split
  next hfields => exact absurd (length_raws hfields).symm h
  · rfl

/-- A line fails exactly with what is wrong with it. -/
theorem readLine_eq_error_iff {k : Nat} {line : List Char} {e : VoicebankError} :
    readLine k line = .error e ↔ Faulty k line e := by
  constructor
  · intro h
    cases hsplit : Text.splitOnce '=' line with
    | none =>
      rw [readLine, hsplit] at h
      cases h
      exact .separator (Text.splitOnce_eq_none.1 hsplit)
    | some p =>
      obtain ⟨name, values⟩ := p
      obtain ⟨rfl, hname⟩ := Text.splitOnce_eq_some.1 hsplit
      obtain ⟨a, raws, hfields⟩ := List.exists_cons_of_ne_nil (Text.splitOn_ne_nil ',' values)
      by_cases hcount : values.count ',' = 5
      · -- The first number that fails is the first of the traversal.
        rw [readLine_eq_error_iff_of_fields hname hfields ((length_raws hfields).trans hcount),
          mapM_eq_error_iff] at h
        obtain ⟨before, ⟨field, raw⟩, after, hzip, hbefore, hraw⟩ := h
        obtain ⟨hnot, rfl⟩ := number_eq_error_iff.1 hraw
        exact .number rfl hname hcount hfields hzip
          (fun p hp => (hbefore p hp).imp fun x hx => number_eq_ok_iff.1 hx) hnot
      · rw [readLine_of_count_ne hname hcount] at h
        cases h
        exact .length rfl hname hcount
  · intro h
    cases h with
    | separator h => rw [readLine, Text.splitOnce_eq_none.2 h]
    | length hline hname h => rw [hline, readLine_of_count_ne hname h]
    | number hline hname hcount hfields hzip hbefore h =>
      rw [hline, readLine_eq_error_iff_of_fields hname hfields
        ((length_raws hfields).trans hcount), mapM_eq_error_iff]
      exact ⟨_, _, _, hzip, fun p hp => (hbefore p hp).imp fun x hx => number_eq_ok_iff.2 hx,
        number_eq_error_iff.2 ⟨h, rfl⟩⟩

/-- A line has the form of a sample exactly if it is that of one. -/
theorem exists_describes_iff {line : List Char} : (∃ e, Describes line e) ↔ IsSample line := by
  constructor
  · rintro ⟨e, name, values, a, raws, hline, hname, hfields, -, -, hnumbers⟩
    have hlength : raws.length = 5 := hnumbers.length_eq
    refine ⟨name, values, a, raws, hline, hname, length_raws hfields ▸ hlength, hfields, ?_⟩
    intro raw hraw
    obtain ⟨x, -, hx⟩ := exists_mem_of_forall₂ hnumbers.flip hraw
    exact ⟨x, hx⟩
  · rintro ⟨name, values, a, raws, hline, hname, hcount, hfields, hraws⟩
    -- Five fields make the five numbers of a sample.
    match raws, (length_raws hfields).trans hcount with
    | [r1, r2, r3, r4, r5], _ =>
      obtain ⟨x1, h1⟩ := hraws r1 (by simp)
      obtain ⟨x2, h2⟩ := hraws r2 (by simp)
      obtain ⟨x3, h3⟩ := hraws r3 (by simp)
      obtain ⟨x4, h4⟩ := hraws r4 (by simp)
      obtain ⟨x5, h5⟩ := hraws r5 (by simp)
      exact ⟨⟨String.ofList name, String.ofList a, x1, x2, x3, x4, x5⟩, name, values, a, _, hline,
        hname, hfields, rfl, rfl, .cons h1 (.cons h2 (.cons h3 (.cons h4 (.cons h5 .nil))))⟩

/-- A faulty line that is moved is faulty with the same error, but for the number. -/
theorem Faulty.moved {n : Nat} {line : List Char} {e : VoicebankError} (h : Faulty n line e)
    (k : Nat) : Faulty (n + k) line (e.moved k) := by
  cases h with
  | separator h => exact .separator h
  | length hline hname h => exact .length hline hname h
  | number hline hname hcount hfields hzip hbefore h =>
    exact .number hline hname hcount hfields hzip hbefore h

/-- A line is read alike under any number, but for the number in its error. -/
theorem readLine_add (n k : Nat) (line : List Char) :
    readLine (n + k) line = (readLine n line).mapError (·.moved k) := by
  cases h : readLine n line with
  | ok e => exact readLine_eq_ok_iff.2 (readLine_eq_ok_iff.1 h)
  | error e => exact readLine_eq_error_iff.2 ((readLine_eq_error_iff.1 h).moved k)

end SampleEntry

namespace SampleTable

open SampleEntry

/-! ### Texts -/

/-- The live lines of a text are read one by one. -/
theorem read_eq_mapM (o : SampleTableOptions) (text : String) :
    read o text = ((liveLines o.comment text).mapM fun p => SampleEntry.readLine p.2 p.1).map
      (·.foldl push empty) := by
  rw [read, readLines_eq_mapM, liveLines_eq_kept (isSkipped_eq o.comment)]

/-- Lines are read alike after any entries and with any numbers. -/
theorem readLines_after (o : SampleTableOptions) (t : SampleTable) (n k : Nat)
    (ls : List (List Char)) :
    readLines o t (n + k) ls =
      ((readLines o empty n ls).map t.append).mapError (·.moved k) := by
  rw [readLines_eq_mapM, readLines_eq_mapM, mapM_kept_add fun n line => readLine_add n k line]
  cases (kept (isSkipped o.comment) n ls).mapM fun p => SampleEntry.readLine p.2 p.1 with
  | error e => rfl
  | ok es =>
    -- An entry is added at the end, so adding to `t` is adding to the end of `t`.
    refine congrArg Except.ok (SampleTable.ext ?_)
    rw [toList_append, toList_foldl_push, toList_foldl_push, toList_empty, List.nil_append]

/-- A text that another one follows is read first, and the other as a text of its own. -/
theorem read_append (o : SampleTableOptions) {text more : String} (htext : EndsLine text)
    (hmore : more.toList.head? ≠ some '\uFEFF') :
    read o (text ++ more) = (read o text).bind fun t =>
      ((read o more).map t.append).mapError (·.moved (text.toList.count '\n')) := by
  obtain ⟨hlines, hcount⟩ := lines_append htext hmore
  simp only [read, hlines, readLines_append, readLines_after, hcount]

/-- A text of samples is read exactly if each of its live lines has the form of a sample, and
then its entries are those that the live lines describe, in their order. Otherwise the error is
what is wrong with the first live line that has not that form. A text that starts on a line of
its own is read as a table of its own, whose entries come after the others and whose lines are
counted from there on. -/
theorem read_linewise (o : SampleTableOptions) (text : String) :
    ((∃ t, read o text = .ok t) ↔ ∀ p ∈ liveLines o.comment text, IsSample p.1) ∧
    (∀ t, read o text = .ok t ↔
      List.Forall₂ (fun p e => Describes p.1 e) (liveLines o.comment text) t.toList) ∧
    (∀ e, read o text = .error e ↔
      ∃ before p after, liveLines o.comment text = before ++ p :: after ∧
        (∀ q ∈ before, IsSample q.1) ∧ Faulty p.2 p.1 e) ∧
    ∀ more : String, EndsLine text → more.toList.head? ≠ some '\uFEFF' →
      read o (text ++ more) = (read o text).bind fun t =>
        ((read o more).map t.append).mapError (·.moved (text.toList.count '\n')) := by
  have hok : ∀ t, read o text = .ok t ↔
      List.Forall₂ (fun p e => Describes p.1 e) (liveLines o.comment text) t.toList := by
    intro t
    rw [read_eq_mapM, map_eq_ok_iff]
    simp only [mapM_eq_ok_iff, readLine_eq_ok_iff]
    constructor
    · -- A table is its list of entries.
      rintro ⟨es, hes, rfl⟩
      rwa [toList_foldl_push, toList_empty, List.nil_append]
    · intro h
      exact ⟨t.toList, h, SampleTable.ext (toList_ofList t.toList)⟩
  have herror : ∀ e, read o text = .error e ↔
      ∃ before p after, liveLines o.comment text = before ++ p :: after ∧
        (∀ q ∈ before, IsSample q.1) ∧ Faulty p.2 p.1 e := by
    intro e
    rw [read_eq_mapM, map_eq_error_iff, mapM_eq_error_iff]
    simp only [readLine_eq_ok_iff, readLine_eq_error_iff]
    simp only [← exists_describes_iff, Describes]
  refine ⟨?_, hok, herror, fun more => read_append o⟩
  rw [read_eq_mapM, exists_map_eq_ok_iff, exists_mapM_eq_ok_iff]
  simp only [readLine_eq_ok_iff, ← exists_describes_iff, Describes]

/-- A comment, a blank line and a mark count as lines before an error in the second text. -/
theorem read_linewise_two_texts :
    EndsLine "\uFEFF; x\na.wav=a,,,,,\n \n" ∧ "b\n".toList.head? ≠ some '\uFEFF' ∧
      read { comment := some ';' } ("\uFEFF; x\na.wav=a,,,,,\n \n" ++ "b\n") =
        .error (.missingSeparator 4) := by
  have htext : EndsLine "\uFEFF; x\na.wav=a,,,,,\n \n" := Or.inr (by decide)
  have hmore : "b\n".toList.head? ≠ some '\uFEFF' := by decide
  refine ⟨htext, hmore, ?_⟩
  rw [(read_linewise _ _).2.2.2 _ htext hmore]
  rfl

end SampleTable

end VocalScore
