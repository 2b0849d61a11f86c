import VocalScore.Proofs.Score.FieldText
import VocalScore.Proofs.Score.SectionFold
import VocalScore.Proofs.Score.SectionText

/-!
# Scores that are written read back

A score is spelled with one section per part: the version block, the tempo and the choice of
bends, the notes under their numbers, and the end mark. A note has a line for each value that is
there. Every note comes back from its spelling, whatever its lyric looks like.

## Key results

- `Note.ofSection_of_table`: a note reads back from the section of its values
- `Score.addSections_notes`: the sections of notes are added one by one, up to the end mark
- `Score.read_spelling`: a score reads back from its spelling
-/

namespace VocalScore

/-! ### Notes -/

namespace Note

/-- The keys of a note with their values, in the order of its lines. -/
def table (n : Note) : List (String × Option String) :=
  [("Length", some (String.ofList (Text.digits 10 n.length.toNat))),
    ("Lyric", some n.lyric),
    ("NoteNum", some (String.ofList (Text.digits 10 n.pitch.toNat))),
    ("Intensity", some (Number.plainString n.intensity)),
    ("Modulation", some (Number.plainString n.modulation)),
    ("Velocity", n.velocity.map Number.plainString),
    ("PreUtterance", n.preUtterance.map Number.plainString),
    ("VoiceOverlap", n.voiceOverlap.map Number.plainString),
    ("StartPoint", n.startPoint.map Number.plainString),
    ("Envelope", n.envelope.map Envelope.render),
    ("PBType", n.pitchBend.map fun b => Text.decimalString b.kind.toInt),
    ("PBS", n.pitchBend.map fun b => PitchBend.pointText b.start),
    ("PBW", n.pitchBend.map fun b => Field.numbersText b.widths),
    ("PBY", n.pitchBend.map fun b => Field.numbersText b.ys),
    ("PBM", n.pitchBend.map fun b => Field.modesText b.modes)]

/-- A note that its lines tell in full. -/
structure Spellable (n : Note) : Prop where
  lyric : Section.Verbatim n.lyric.toList
  pitch : n.pitch ≤ 127
  envelope : ∀ e ∈ n.envelope, e.v5 = .auto

/-- The section of a note with a number. -/
def toSection (number : Nat) (n : Note) : Section :=
  ⟨String.ofList ('#' :: Text.digits 10 number), 0, Section.present n.table, []⟩

/-- The keys of a table. -/
def keys : List String :=
  ["Length", "Lyric", "NoteNum", "Intensity", "Modulation", "Velocity", "PreUtterance",
    "VoiceOverlap", "StartPoint", "Envelope", "PBType", "PBS", "PBW", "PBY", "PBM"]

theorem map_fst_table (n : Note) : n.table.map Prod.fst = keys := rfl

theorem nodup_keys : keys.Nodup := by decide

/-- The keys of a note are keys of a section. -/
theorem isKey_of_mem_keys : ∀ key ∈ keys, Section.isKey key = true := by decide

/-! #### Reading the values -/

variable {s : Section} {key : String}

/-- A required number is read back from its digits. -/
theorem requiredNat_of_digits {bound k : Nat}
    (h : s.get? key = some (String.ofList (Text.digits 10 k))) (hk : k ≤ bound) :
    requiredNat s key bound = .ok k := by
  have hne : String.ofList (Text.digits 10 k) ≠ "" := by
    rw [ne_eq, ← String.toList_eq_nil_iff, String.toList_ofList]
    exact Number.digits_ne_nil k
  -- A number has a digit, so it is not taken for a missing value.
  have hrequired : required s key = .ok (String.ofList (Text.digits 10 k)) := by
    rw [required, h]
    exact if_neg hne
  rw [requiredNat, hrequired]
  simp only [bind, Except.bind, String.toList_ofList, Number.readNat_digits hk]

/-- A value that may be missing is read back if the reader reads it back. -/
theorem readUnless_of_map {α : Type} {f : String → Except ScoreError α} {render : α → String}
    {x : Option α} (h : s.get? key = x.map render)
    (hread : ∀ a ∈ x, render a ≠ "" ∧ f (render a) = .ok a) : readUnless s key f = .ok x := by
  rw [readUnless, Section.value, h]
  cases x with
  | none => rfl
  | some a =>
    obtain ⟨hne, ha⟩ := hread a rfl
    rw [Option.map_some, Option.getD_some, if_neg hne, ha]
    rfl

/-- An optional number is read back. -/
theorem optional_of_map {x : Option Float} (h : s.get? key = x.map Number.plainString) :
    optional s key = .ok x := by
  rw [optional, Section.value, h]
  cases x with
  | none => rfl
  | some x =>
    rw [Option.map_some, Option.getD_some, Field.optionalNumber, Field.blank_plainString,
      if_neg Bool.false_ne_true, Field.number_plainString]
    rfl

/-- The bend of a note is read back from its table. -/
theorem readBend_of_table {n : Note} (h : ∀ key, s.get? key = (n.table.lookup key).join) :
    readBend s = .ok n.pitchBend := by
  have hold : s.get? "PBStart" = none := h "PBStart"
  have hstart : s.get? "PBS" = n.pitchBend.map fun b => PitchBend.pointText b.start := h "PBS"
  rw [readBend, Section.has_eq_isSome_get?, Section.has_eq_isSome_get?, hstart, hold]
  cases hbend : n.pitchBend with
  | none => rfl
  | some b =>
    -- The start is there, so the other parts are read from their keys.
    have hvalue : ∀ {key : String} (f : PitchBend → String), s.get? key = n.pitchBend.map f →
        s.value key = f b := by
      intro key f hkey
      rw [Section.value, hkey, hbend]
      rfl
    show (PitchBend.read (s.value "PBType") (s.value "PBStart") (s.value "PBS") (s.value "PBW")
      (s.value "PBY") (s.value "PBM")).map some = .ok (some b)
    have hempty : s.value "PBStart" = "" := by rw [Section.value, hold, Option.getD_none]
    rw [hvalue (fun b => Text.decimalString b.kind.toInt) (h "PBType"), hempty,
      hvalue _ hstart,
      hvalue (fun b => Field.numbersText b.widths) (h "PBW"),
      hvalue (fun b => Field.numbersText b.ys) (h "PBY"),
      hvalue (fun b => Field.modesText b.modes) (h "PBM"),
      PitchBend.read_texts]
    rfl

/-- A note reads back from a section that has its values. -/
theorem ofSection_of_table {n : Note} (hn : n.Spellable)
    (h : ∀ key, s.get? key = (n.table.lookup key).join) : ofSection s = .ok n := by
  have hnumber : ∀ a ∈ some n.intensity, Number.plainString a ≠ "" ∧
      Field.number "Intensity" (Number.plainString a) = .ok a :=
    fun a _ => ⟨Field.plainString_ne a, Field.number_plainString _ a⟩
  -- The bounds of the readers are met: 32 bits for the length, 127 for the pitch.
  have hlength : requiredNat s "Length" (UInt32.size - 1) = .ok n.length.toNat :=
    requiredNat_of_digits (h "Length") (Nat.le_pred_of_lt n.length.toNat_lt)
  have hpitch : requiredNat s "NoteNum" 127 = .ok n.pitch.toNat :=
    requiredNat_of_digits (h "NoteNum") (UInt8.le_iff_toNat_le.1 hn.pitch)
  have hlyric : s.get? "Lyric" = some n.lyric := h "Lyric"
  have hintensity : readUnless s "Intensity" (Field.number "Intensity") = .ok (some n.intensity) :=
    readUnless_of_map (h "Intensity") hnumber
  have henvelope : readUnless s "Envelope" Envelope.read = .ok n.envelope :=
    readUnless_of_map (h "Envelope") fun e he =>
      ⟨e.render_ne, Envelope.read_render (hn.envelope e he)⟩
  have hvelocity : optional s "Velocity" = .ok n.velocity := optional_of_map (h "Velocity")
  have hmodulation : optional s "Modulation" = .ok (some n.modulation) :=
    optional_of_map (h "Modulation")
  have hpre : optional s "PreUtterance" = .ok n.preUtterance := optional_of_map (h "PreUtterance")
  have hoverlap : optional s "VoiceOverlap" = .ok n.voiceOverlap :=
    optional_of_map (h "VoiceOverlap")
  have hstart : optional s "StartPoint" = .ok n.startPoint := optional_of_map (h "StartPoint")
  -- Every reader gives its value back, so none of them stops the others.
  rw [ofSection, hlength, hpitch, hlyric, hintensity, henvelope, readBend_of_table h, hvelocity,
    hmodulation, hpre, hoverlap, hstart]
  simp only [bind, Except.bind, hn.lyric.trimmed_eq, Option.getD_some, UInt32.ofNat_toNat,
    UInt8.ofNat_toNat]

/-! #### The section of a note -/

/-- The section of a note has the name of one. -/
theorem isNoteName_toSection (number : Nat) (n : Note) :
    Score.isNoteName (n.toSection number).name = true := by
  rw [toSection, Score.isNoteName, String.toList_ofList]
  simp only [Number.all_digits, Bool.and_true, decide_eq_true_eq]
  exact Number.digits_ne_nil number

/-- A note is read back from its section. -/
theorem ofSection_toSection {n : Note} (hn : n.Spellable) (number line : Nat) :
    ofSection ((n.toSection number).atLine line) = .ok n :=
  ofSection_of_table hn (Section.get?_present (n.map_fst_table ▸ nodup_keys) _ _ _)

/-- Every value of a note can stand on a line: only a lyric may have white space. -/
theorem verbatim_of_mem_table {n : Note} (hn : n.Spellable) :
    ∀ p ∈ n.table, ∀ v ∈ p.2, Section.Verbatim v.toList := by
  -- Values that are there are written without white space, so nothing is trimmed.
  have hmap : ∀ {α : Type} (f : α → String) (x : Option α),
      (∀ a, ∀ c ∈ (f a).toList, Text.isBlank c = false) →
      ∀ v ∈ x.map f, Section.Verbatim v.toList := by
    intro α f x hf v hv
    obtain ⟨a, -, rfl⟩ := Option.map_eq_some_iff.1 hv
    exact Section.verbatim_of_visible (hf a)
  have hdigits : ∀ k : Nat, ∀ v ∈ some (String.ofList (Text.digits 10 k)),
      Section.Verbatim v.toList := by
    rintro k v ⟨⟩
    apply Section.verbatim_of_visible
    rw [String.toList_ofList]
    exact fun c hc => Number.isBlank_of_mem_digits hc
  have hnumber : ∀ x : Option Float, ∀ v ∈ x.map Number.plainString, Section.Verbatim v.toList :=
    fun x => hmap _ x Field.visible_plainString
  -- In the order of the table, with the lyric left to the end.
  simp only [table, List.forall_mem_cons]
  refine ⟨hdigits _, ?_, hdigits _, hnumber (some _), hnumber (some _), hnumber _, hnumber _,
    hnumber _, hnumber _, hmap _ _ Envelope.visible_render,
    hmap _ _ fun b => PitchBend.visible_decimal b.kind.toInt,
    hmap _ _ fun b => PitchBend.visible_pointText b.start,
    hmap _ _ fun b => Field.visible_numbersText b.widths,
    hmap _ _ fun b => Field.visible_numbersText b.ys,
    hmap _ _ fun b => Field.visible_modesText b.modes, fun p hp => absurd hp List.not_mem_nil⟩
  rintro v ⟨⟩
  exact hn.lyric

/-- The section of a note is plain, so it is read back as it is written. -/
theorem plain_toSection {n : Note} (hn : n.Spellable) (number : Nat) :
    (n.toSection number).Plain [Score.versionName] := by
  have hraw : [Score.versionName].contains (n.toSection number).name = false := by
    rw [List.contains_eq_mem, decide_eq_false_iff_not, List.mem_singleton]
    exact Score.ne_version_of_isNoteName (n.isNoteName_toSection number)
  apply Section.plain_of_not_raw hraw
  · apply Section.verbatim_of_visible
    rw [toSection, String.toList_ofList, List.forall_mem_cons]
    exact ⟨by decide, fun c hc => Number.isBlank_of_mem_digits hc⟩
  · -- An entry of the section is a row of the table that has a value.
    intro e he
    obtain ⟨p, hp, hmap⟩ := List.mem_filterMap.1 he
    obtain ⟨v, hv, rfl⟩ := Option.map_eq_some_iff.1 hmap
    exact ⟨isKey_of_mem_keys p.1 (List.mem_map_of_mem hp), verbatim_of_mem_table hn p hp v hv⟩

end Note

/-! ### Settings -/

namespace Settings

/-- The words for a choice. -/
def words (choice : Bool) : List String := if choice then Field.trueWords else Field.falseWords

/-- The section of a tempo and a choice. -/
def toSection (tempo mode2 : String) : Section :=
  ⟨Score.settingsName, 0, [("Tempo", tempo), ("Mode2", mode2)], []⟩

/-- A word for true or false has no white space, in whatever case it is written. -/
theorem visible_of_word {mode2 : String} {choice : Bool}
    (h : Text.lowerAscii mode2 ∈ words choice) : ∀ c ∈ mode2.toList, Text.isBlank c = false := by
  have hwords : ∀ w ∈ words choice, w.toList.all (!Text.isBlank ·) = true := by
    cases choice <;> decide
  exact Text.isBlank_of_lower rfl (hwords _ h)

/-- A word makes its choice. -/
theorem isFlag_of_word {mode2 : String} {choice : Bool}
    (h : Text.lowerAscii mode2 ∈ words choice) : Field.IsFlag mode2 choice := by
  rw [← (Section.verbatim_of_visible (visible_of_word h)).trimmed_eq] at h
  cases choice with
  | true => exact .yes h
  | false => exact .no h

/-- The section of a tempo and a choice reads as settings without any texts. -/
theorem ofSection_toSection {tempo mode2 : String} {t : Float} {choice : Bool}
    (htempo : Number.read tempo.toList = some t) (hfinite : t.isFinite = true) (hpos : 0.0 < t)
    (hmode : Text.lowerAscii mode2 ∈ words choice) (line : Nat) :
    ofSection ((toSection tempo mode2).atLine line) = .ok { plain t with mode2 := choice } :=
  ofSection_eq_ok_iff.2 ⟨⟨htempo, hfinite, hpos⟩, isFlag_of_word hmode, rfl, rfl, rfl, rfl, rfl,
    rfl, rfl⟩

/-- The section of a tempo and a choice is told by its lines in full. -/
theorem plain_toSection {tempo mode2 : String} {t : Float} {choice : Bool}
    (htempo : Number.read tempo.toList = some t) (hmode : Text.lowerAscii mode2 ∈ words choice) :
    (toSection tempo mode2).Plain [Score.versionName] := by
  have htempo_key : Section.isKey "Tempo" = true := by decide
  have hmode_key : Section.isKey "Mode2" = true := by decide
  apply Section.plain_of_not_raw
  · decide
  · exact Section.verbatim_of_all (by decide)
  · rw [List.forall_mem_cons, List.forall_mem_singleton]
    -- What is read as a number or as a word has no white space in it.
    exact ⟨⟨htempo_key, Section.verbatim_of_visible (Number.isBlank_of_read htempo)⟩,
      ⟨hmode_key, Section.verbatim_of_visible (visible_of_word hmode)⟩⟩

end Settings

/-! ### Scores -/

namespace Score

/-- The section of a version block. -/
def versionSection (block : List String) : Section := ⟨versionName, 0, [], block⟩

/-- The sections of a score: its version block, its tempo and choice of bends, its notes numbered
from zero, and the end mark. -/
def spelledSections (block : List String) (tempo mode2 : String) (notes : List Note) :
    List Section :=
  versionSection block :: Settings.toSection tempo mode2 ::
    (notes.zipIdx.map (fun p => p.1.toSection p.2) ++ [Section.empty endName 0])

/-- The text of a score. -/
def spelling (block : List String) (tempo mode2 : String) (notes : List Note) : String :=
  Section.text (spelledSections block tempo mode2 notes)

/-- The sections of notes are added one by one, up to the end mark. -/
theorem addSections_notes {notes : List Note} (h : ∀ n ∈ notes, n.Spellable) (d : Draft)
    (number line : Nat) :
    addSections d (Section.numbered line
        ((notes.zipIdx number).map (fun p => p.1.toSection p.2) ++ [Section.empty endName 0])) =
      .ok { d with notes := d.notes ++ notes } := by
  -- A note is added to whatever draft there is, under any number and at any line.
  induction notes generalizing d number line with
  | nil =>
    rw [List.append_nil]
    exact addSections_end d rfl _
  | cons n notes ih =>
    have hname : isNoteName ((n.toSection number).atLine line).name = true :=
      n.isNoteName_toSection number
    have hadd : addSection d ((n.toSection number).atLine line) =
        .ok { d with notes := d.notes ++ [n] } := by
      rw [addSection_note d hname, Note.ofSection_toSection (h n List.mem_cons_self)]
      rfl
    rw [List.zipIdx_cons, List.map_cons, List.cons_append, Section.numbered,
      addSections_of_add (ne_end_of_isNoteName hname) hadd,
      ih fun m hm => h m (List.mem_cons_of_mem n hm)]
    simp only [List.append_assoc, List.singleton_append]

/-- The version block and the settings make a draft without notes. -/
theorem addSections_blocks {block : List String} {v : Version} {tempo mode2 : String} {t : Float}
    {choice : Bool} (hversion : Version.ofBody block = .ok v)
    (htempo : Number.read tempo.toList = some t) (hfinite : t.isFinite = true) (hpos : 0.0 < t)
    (hmode : Text.lowerAscii mode2 ∈ Settings.words choice) (line line' : Nat)
    (rest : List Section) :
    addSections .start ((versionSection block).atLine line ::
        (Settings.toSection tempo mode2).atLine line' :: rest) =
      addSections ⟨v, some { Settings.plain t with mode2 := choice }, []⟩ rest := by
  have hblock : addSection .start ((versionSection block).atLine line) = .ok ⟨v, none, []⟩ := by
    rw [addSection_version .start (s := (versionSection block).atLine line) rfl]
    show (Version.ofBody block).map _ = _
    rw [hversion]
    rfl
  have hsettings : addSection ⟨v, none, []⟩ ((Settings.toSection tempo mode2).atLine line') =
      .ok ⟨v, some { Settings.plain t with mode2 := choice }, []⟩ := by
    rw [addSection_settings _ (s := (Settings.toSection tempo mode2).atLine line') rfl,
      Settings.ofSection_toSection htempo hfinite hpos hmode]
    rfl
  -- Neither block is the end mark.
  have hversion_ne : versionName ≠ endName := by decide
  have hsettings_ne : settingsName ≠ endName := by decide
  rw [addSections_of_add hversion_ne hblock, addSections_of_add hsettings_ne hsettings]

/-! #### Texts of scores -/

/-- The version block is plain. -/
theorem plain_versionSection {block : List String}
    (hblock : ∀ line ∈ block, Section.IsFreeLine line) :
    (versionSection block).Plain [versionName] where
  name := Section.verbatim_of_all (s := versionName) (by decide)
  entries _ he := absurd he List.not_mem_nil
  body := hblock
  kind := by
    have hraw : [versionName].contains versionName = true := by decide
    rw [versionSection, hraw, if_pos rfl]

/-- The end mark is plain. -/
theorem plain_endSection : (Section.empty endName 0).Plain [versionName] :=
  Section.plain_of_not_raw (by decide) (Section.verbatim_of_all (by decide))
    (fun _ he => absurd he List.not_mem_nil) 0

/-- The sections of a score are told by their lines in full. -/
theorem plain_of_mem_spelledSections {block : List String} {tempo mode2 : String} {t : Float}
    {choice : Bool} {notes : List Note} (hblock : ∀ line ∈ block, Section.IsFreeLine line)
    (htempo : Number.read tempo.toList = some t)
    (hmode : Text.lowerAscii mode2 ∈ Settings.words choice) (hnotes : ∀ n ∈ notes, n.Spellable) :
    ∀ s ∈ spelledSections block tempo mode2 notes, s.Plain [versionName] := by
  rw [spelledSections, List.forall_mem_cons, List.forall_mem_cons]
  refine ⟨plain_versionSection hblock, Settings.plain_toSection htempo hmode, ?_⟩
  intro s hs
  rcases List.mem_append.1 hs with hs | hs
  · -- A note, or the end mark.
    obtain ⟨⟨n, number⟩, hn, rfl⟩ := List.mem_map.1 hs
    exact Note.plain_toSection (hnotes n (List.fst_mem_of_mem_zipIdx hn)) number
  · rw [List.mem_singleton.1 hs]
    exact plain_endSection

/-- A score reads back from its spelling. Its version block may have any lines of which the version
can be read, its tempo any text of a finite number above zero, and its choice of bends any word in
any case. Each note may have any lyric without white space around it and without a newline, any
numbers, whether finite or not, and any bend; only the last volume of an envelope has no place in
a text. -/
theorem read_spelling {block : List String} {v : Version} {tempo mode2 : String} {t : Float}
    {choice : Bool} {notes : List Note} (hblock : ∀ line ∈ block, Section.IsFreeLine line)
    (hversion : Version.ofBody block = .ok v) (htempo : Number.read tempo.toList = some t)
    (hfinite : t.isFinite = true) (hpos : 0.0 < t)
    (hmode : Text.lowerAscii mode2 ∈ Settings.words choice) (hnotes : ∀ n ∈ notes, n.Spellable) :
    read (spelling block tempo mode2 notes) =
      .ok ⟨v, { Settings.plain t with mode2 := choice }, notes⟩ := by
  -- The text has the sections that were spelled, after the one before any header.
  have hsections := Section.read_text
    (plain_of_mem_spelledSections hblock htempo hmode hnotes)
  have hhead : addSection .start (Section.empty Section.headName 0) = .ok .start :=
    addSection_other .start (isPart_of_headName rfl)
  have hhead_ne : Section.headName ≠ endName := by decide
  rw [spelling, read_eq_ofSections hsections, ofSections, addSections_of_add hhead_ne hhead,
    spelledSections, Section.numbered, Section.numbered,
    addSections_blocks hversion htempo hfinite hpos hmode, addSections_notes hnotes,
    List.nil_append]
  rfl

/-- A lyric that looks like a header, a key and a comment comes back, and so do a note without a
lyric, an envelope that leaves its times open, and a bend without segments. -/
theorem read_spelling_marked_lyric :
    read (spelling ["UST Version2.0"] "1.2e2" "oFF"
      [{ Note.plain 480 "[#1]=;" 60 with pitchBend := some ⟨5, ⟨-40.0, 0.5⟩, [], [], []⟩ },
        { Note.plain 4294967295 "" 127 with
          preUtterance := some (-0.1),
          envelope := some (Envelope.ofValues [.auto, .auto, .auto, .literal 100.0]) }]) =
      .ok ⟨.v2_0, { Settings.plain 120.0 with mode2 := false },
        [{ Note.plain 480 "[#1]=;" 60 with pitchBend := some ⟨5, ⟨-40.0, 0.5⟩, [], [], []⟩ },
          { Note.plain 4294967295 "" 127 with
            preUtterance := some (-0.1),
            envelope := some (Envelope.ofValues [.auto, .auto, .auto, .literal 100.0]) }]⟩ := by
  -- A lyric that looks like a header, and one that is empty.
  apply read_spelling
  · intro line hline
    rw [List.mem_singleton.1 hline]
    exact ⟨⟨by decide, by decide⟩, by decide, by decide⟩
  · decide
  · decide
  · decide
  · decide
  · decide
  · rw [List.forall_mem_cons, List.forall_mem_singleton]
    constructor
    · exact
        { lyric := ⟨by decide, by decide⟩
          pitch := by decide
          envelope := fun e he => absurd he (Option.not_mem_none e) }
    · refine
        { lyric := ⟨by decide, by decide⟩
          pitch := by decide
          envelope := ?_ }
      intro e he
      obtain rfl := Option.mem_some_iff.1 he
      rfl

end Score

end VocalScore
