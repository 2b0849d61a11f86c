import VocalScore.Proofs.Json.Decode
import VocalScore.Proofs.Score.SectionFold
import VocalScore.Score.Json

/-!
# Scores that are dumped as JSON

Every reader of numbers lets `inf` and `nan` through, and so do numbers that are too large. In a
dump they are null. Where a number is required, a dump with a null is not read at all; where it
is optional, null is read as none, so that a timing value that was there has gone.

## Key results

- `Note.ofJson?_toJson` / `Score.ofJson?_toJson`: what the JSON form of a note or score is read as
- `Score.isFinite_tempo`: the tempo of a score that was read is finite
- `Score.read_toJson`: what the text of a dump is read as
-/

namespace VocalScore

open Json (Written Exact)
open Traversal (bind_eq_ok_iff ite_bind ite_ite_none)

@[simp] theorem Version.written_toJson (v : Version) : Written v.toJson := Json.written_text _

/-- A version is read back by its name. -/
theorem Version.ofJson?_toJson (v : Version) : ofJson? v.toJson = some v := by
  rw [ofJson?, toJson, Json.name?_text, Option.bind_some, ofName?_name]

@[simp] theorem Interpolation.written_toJson (i : Interpolation) : Written i.toJson :=
  Json.written_text _

/-- A mode is read back by its name. -/
theorem Interpolation.ofJson?_toJson (i : Interpolation) : ofJson? i.toJson = some i := by
  rw [ofJson?, toJson, Json.name?_text, Option.bind_some, ofName?_name]

/-! ### Envelopes -/

namespace EnvelopeValue

/-- The number of a value, if it is given. -/
def numbers : EnvelopeValue → List Float
  | auto => []
  | literal x => [x]

/-- A value of an envelope is written as its number, or as a word. -/
@[simp] theorem written_toJson (v : EnvelopeValue) : Written v.toJson := by
  cases v with
  | auto => exact Json.written_text _
  | literal x =>
    show Written (.record (["Value"].zip [.real x]))
    exact Json.written_record (by simp)

/-- A value of an envelope is read back unless its number is not finite. -/
theorem ofJson?_toJson {v : EnvelopeValue} (h : Exact v.numbers) :
    ofJson? v.toJson = if v.numbers.all Float.isFinite then some v else none := by
  cases v with
  | auto => decide
  | literal x =>
    -- A number is written in an object of one member, which names the kind of the value.
    have hkey : (Json.string (Json.escape "Value".toList)).text? = some "Value" :=
      Json.text?_text "Value"
    have hx := Json.real?_real h (x := x) List.mem_cons_self
    rw [toJson, Json.record]
    simp only [List.map_cons, List.map_nil, ofJson?, hkey, hx, numbers, List.all_cons,
      List.all_nil, Bool.and_true]
    split <;> rfl

end EnvelopeValue

namespace Envelope

/-- The numbers of an envelope. -/
def numbers (e : Envelope) : List Float := (e.values ++ [e.v5]).flatMap EnvelopeValue.numbers

@[simp] theorem written_toJson (e : Envelope) : Written e.toJson := Json.written_record (by simp)

/-- An envelope is read back unless one of its numbers is not finite. -/
theorem ofJson?_toJson {e : Envelope} (h : Exact e.numbers) :
    ofJson? e.toJson = if e.numbers.all Float.isFinite then some e else none := by
  have hvalue : ∀ v ∈ e.values ++ [e.v5], EnvelopeValue.ofJson? v.toJson =
      if v.numbers.all Float.isFinite then some v else none := fun v hv =>
    EnvelopeValue.ofJson?_toJson (h.of_subset fun x hx => List.mem_flatMap.2 ⟨v, hv, hx⟩)
  simp only [values, List.cons_append, List.nil_append, List.mem_cons, List.not_mem_nil, or_false,
    forall_eq_or_imp, forall_eq] at hvalue
  -- One equation for each value, in the order of the fields.
  obtain ⟨h1, h2, h3, h4, h5, h6, h7, h8, h9, h10⟩ := hvalue
  rw [ofJson?, toJson, Json.slots?_record (by decide) rfl]
  simp only [List.map_cons, List.map_nil, Option.bind_eq_bind, Option.bind_some, Slot.required,
    h1, h2, h3, h4, h5, h6, h7, h8, h9, h10, ite_bind, ite_ite_none, Option.pure_def]
  simp [numbers, values]

end Envelope

/-! ### Bends -/

namespace PitchBend

/-- The numbers of a bend. -/
def numbers (b : PitchBend) : List Float := b.start.x :: b.start.y :: (b.widths ++ b.ys)

@[simp] theorem written_point (p : BendPoint) : Written p.toJson := Json.written_record (by simp)

@[simp] theorem written_toJson (b : PitchBend) : Written b.toJson :=
  Json.written_record (by simp)

/-- The start of a bend is read back unless one of its numbers is not finite. -/
theorem ofJson?_point {p : BendPoint} (h : Exact [p.x, p.y]) :
    BendPoint.ofJson? p.toJson =
      if p.x.isFinite && p.y.isFinite then some p else none := by
  have hx := Json.real?_real h (x := p.x) (by simp)
  have hy := Json.real?_real h (x := p.y) (by simp)
  rw [BendPoint.ofJson?, BendPoint.toJson, Json.slots?_record (by decide) rfl]
  simp only [List.map_cons, List.map_nil, Option.bind_eq_bind, Option.bind_some, Slot.required,
    hx, hy, ite_bind, ite_ite_none, Option.pure_def]

/-- A bend is read back unless one of its numbers is not finite. -/
theorem ofJson?_toJson {b : PitchBend} (h : Exact b.numbers) :
    ofJson? b.toJson = if b.numbers.all Float.isFinite then some b else none := by
  have hkind := Json.whole?_int32 b.kind
  have hstart := ofJson?_point (p := b.start) (h.of_subset fun x hx => by
    simp only [List.mem_cons, List.not_mem_nil, or_false] at hx
    rcases hx with rfl | rfl <;> simp [numbers])
  have hwidths := Json.list?_real (l := b.widths) (h.of_subset fun x hx => by simp [numbers, hx])
  have hys := Json.list?_real (l := b.ys) (h.of_subset fun x hx => by simp [numbers, hx])
  have hmodes := Json.list?_eq_some (l := b.modes) (k := id) fun i _ =>
    Interpolation.ofJson?_toJson i
  rw [List.map_id] at hmodes
  rw [ofJson?, toJson, Json.slots?_record (by decide) rfl]
  -- Each slot is there, so reading it comes down to the condition of its value.
  simp only [List.map_cons, List.map_nil, Option.bind_eq_bind, Option.bind_some, Slot.required,
    hkind, hstart, hwidths, hys, hmodes, ite_bind, ite_ite_none, Option.pure_def,
    Int32.ofInt_toInt]
  simp [numbers, Bool.and_assoc]

end PitchBend

/-! ### Notes -/

namespace Note

/-- The numbers of a note that have to be there. -/
def plainNumbers (n : Note) : List Float :=
  n.intensity :: n.modulation :: (n.envelope.toList.flatMap Envelope.numbers ++
    n.pitchBend.toList.flatMap PitchBend.numbers)

/-- The numbers of a note that may be left out, as far as they are there. -/
def optionalNumbers (n : Note) : List Float :=
  n.velocity.toList ++ n.preUtterance.toList ++ n.voiceOverlap.toList ++ n.startPoint.toList

/-- A note without the optional numbers that are not finite. -/
def withoutNonFinite (n : Note) : Note :=
  { n with velocity := n.velocity.filter Float.isFinite
           preUtterance := n.preUtterance.filter Float.isFinite
           voiceOverlap := n.voiceOverlap.filter Float.isFinite
           startPoint := n.startPoint.filter Float.isFinite }

@[simp] theorem written_toJson (n : Note) : Written n.toJson := Json.written_record (by simp)

/-- A note is read back without its optional numbers that are not finite, unless another number is
not. -/
theorem ofJson?_toJson {n : Note} (h : Exact (n.plainNumbers ++ n.optionalNumbers)) :
    ofJson? n.toJson =
      if n.plainNumbers.all Float.isFinite then some n.withoutNonFinite else none := by
  have hlength := Json.nat?_uint32 n.length
  have hpitch := Json.nat?_uint8 n.pitch
  have hlyric := Json.text?_text n.lyric
  have hintensity := Json.real?_real h (x := n.intensity) (by simp [plainNumbers])
  have hmodulation := Json.real?_real h (x := n.modulation) (by simp [plainNumbers])
  -- The four optional numbers are read alike: what is not finite comes back as none.
  have htiming : ∀ o : Option Float, (∀ x ∈ o.toList, x ∈ n.optionalNumbers) →
      (Slot.given (Json.optional .real o)).nullable Json.real? = some (o.filter Float.isFinite) :=
    fun o ho => Json.nullable_real
      (h.of_subset fun x hx => List.mem_append_right n.plainNumbers (ho x hx))
  have hvelocity := htiming n.velocity fun x hx => by simp [optionalNumbers, hx]
  have hpreUtterance := htiming n.preUtterance fun x hx => by simp [optionalNumbers, hx]
  have hvoiceOverlap := htiming n.voiceOverlap fun x hx => by simp [optionalNumbers, hx]
  have hstartPoint := htiming n.startPoint fun x hx => by simp [optionalNumbers, hx]
  have henvelope := Json.nullable_optional (f := Envelope.ofJson?) (g := Envelope.toJson)
    (p := fun e => e.numbers.all Float.isFinite) (o := n.envelope) (fun e => nofun) fun e he =>
      Envelope.ofJson?_toJson
        (h.of_subset fun x hx => by simp [plainNumbers, Option.mem_def.1 he, hx])
  have hpitchBend := Json.nullable_optional (f := PitchBend.ofJson?) (g := PitchBend.toJson)
    (p := fun b => b.numbers.all Float.isFinite) (o := n.pitchBend) (fun b => nofun) fun b hb =>
      PitchBend.ofJson?_toJson
        (h.of_subset fun x hx => by simp [plainNumbers, Option.mem_def.1 hb, hx])
  -- Every field is read on its own; those that can fail make one test together.
  rw [ofJson?, toJson, Json.slots?_record (by decide) rfl]
  simp only [List.map_cons, List.map_nil, Option.bind_eq_bind, Option.bind_some, Slot.required,
    hlength, hpitch, hlyric, hintensity, hmodulation, hvelocity, hpreUtterance, hvoiceOverlap,
    hstartPoint, henvelope, hpitchBend, ite_bind, ite_ite_none, Option.pure_def,
    UInt32.ofNat_toNat, UInt8.ofNat_toNat]
  -- The test as the reader makes it, field by field.
  have hplain : n.plainNumbers.all Float.isFinite = (n.intensity.isFinite &&
      (n.modulation.isFinite && (n.envelope.all (fun e => e.numbers.all Float.isFinite) &&
        n.pitchBend.all (fun b => b.numbers.all Float.isFinite)))) := by
    cases he : n.envelope <;> cases hb : n.pitchBend <;> simp [plainNumbers, he, hb]
  rw [hplain]
  rfl

/-- Nothing is lost of a number that is finite or missing. -/
theorem filter_isFinite_eq_self_iff {o : Option Float} :
    o.filter Float.isFinite = o ↔ ∀ x ∈ o.toList, x.isFinite = true := by
  cases o <;> simp

/-- Nothing is left out of a note if its optional numbers are finite. -/
theorem withoutNonFinite_eq_self_iff {n : Note} :
    n.withoutNonFinite = n ↔ ∀ x ∈ n.optionalNumbers, x.isFinite = true := by
  obtain ⟨length, lyric, pitch, intensity, velocity, modulation, preUtterance, voiceOverlap,
    startPoint, envelope, pitchBend⟩ := n
  simp only [withoutNonFinite, optionalNumbers, Note.mk.injEq, filter_isFinite_eq_self_iff,
    List.mem_append, or_imp, forall_and, true_and, and_true, and_assoc]

end Note

/-! ### Scores -/

@[simp] theorem Settings.written_toJson (s : Settings) : Written s.toJson :=
  Json.written_record (by simp)

/-- The settings are read back unless the tempo is not finite. -/
theorem Settings.ofJson?_toJson {s : Settings} (h : Exact [s.tempo]) :
    ofJson? s.toJson = if s.tempo.isFinite then some s else none := by
  have htempo := Json.real?_real h (x := s.tempo) (by simp)
  have hmode2 : (Json.bool s.mode2).bool? = some s.mode2 := rfl
  rw [ofJson?, toJson, Json.slots?_record (by decide) rfl]
  simp only [List.map_cons, List.map_nil, Option.bind_eq_bind, Option.bind_some, Slot.required,
    htempo, hmode2, Json.text?_text, ite_bind, Option.pure_def]

namespace Score

/-- The numbers of a score. -/
def numbers (s : Score) : List Float :=
  s.settings.tempo :: s.notes.flatMap fun n => n.plainNumbers ++ n.optionalNumbers

/-- A score without the optional numbers that are not finite. -/
def withoutNonFinite (s : Score) : Score := { s with notes := s.notes.map Note.withoutNonFinite }

theorem written_toJson (s : Score) : Written s.toJson := Json.written_record (by simp)

/-- A score is read back without its optional numbers that are not finite, unless another number is
not. -/
theorem ofJson?_toJson {s : Score} (h : Exact s.numbers) :
    ofJson? s.toJson =
      if s.settings.tempo.isFinite && s.notes.all (·.plainNumbers.all Float.isFinite)
      then some s.withoutNonFinite else none := by
  have hversion := Version.ofJson?_toJson s.version
  have hsettings := Settings.ofJson?_toJson (s := s.settings)
    (h.of_subset fun x hx => by simp [numbers, List.mem_singleton.1 hx])
  -- One note that cannot be read makes the whole list fail.
  have hnotes := Json.list?_list (l := s.notes) (p := (·.plainNumbers.all Float.isFinite))
    (k := Note.withoutNonFinite) fun n hn => Note.ofJson?_toJson
      (h.of_subset fun x hx => List.mem_cons_of_mem _ (List.mem_flatMap.2 ⟨n, hn, hx⟩))
  rw [ofJson?, toJson, Json.slots?_record (by decide) rfl]
  simp only [List.map_cons, List.map_nil, Option.bind_eq_bind, Option.bind_some, Slot.required,
    hversion, hsettings, hnotes, ite_bind, ite_ite_none, Option.pure_def, withoutNonFinite]

/-- The numbers of a score with a finite tempo are finite if those of its notes are. -/
theorem forall_isFinite_iff {s : Score} (h : s.settings.tempo.isFinite = true) :
    (∀ x ∈ s.numbers, x.isFinite = true) ↔
      s.notes.all (·.plainNumbers.all Float.isFinite) = true ∧ s.withoutNonFinite = s := by
  -- Only the optional numbers of notes are dropped.
  have hdropped : s.withoutNonFinite = s ↔ ∀ n ∈ s.notes, n.withoutNonFinite = n := by
    obtain ⟨version, settings, notes⟩ := s
    have hmap := List.map_eq_map_iff (f := Note.withoutNonFinite) (g := id) (l := notes)
    rw [List.map_id] at hmap
    simp only [withoutNonFinite, Score.mk.injEq, true_and, hmap, id_eq]
  simp only [numbers, List.mem_cons, List.mem_flatMap, List.mem_append, List.all_eq_true,
    hdropped, Note.withoutNonFinite_eq_self_iff]
  constructor
  · intro hall
    exact ⟨fun n hn x hx => hall x (Or.inr ⟨n, hn, Or.inl hx⟩),
      fun n hn x hx => hall x (Or.inr ⟨n, hn, Or.inr hx⟩)⟩
  · rintro ⟨hplain, hoptional⟩ x (rfl | ⟨n, hn, hx | hx⟩)
    · exact h
    · exact hplain n hn x hx
    · exact hoptional n hn x hx

/-- The tempo of a score that was read is finite: it is the one number that is checked. -/
theorem isFinite_tempo {text : String} {s : Score} (h : read text = .ok s) :
    s.settings.tempo.isFinite = true := by
  obtain ⟨sections, -, hsections⟩ := bind_eq_ok_iff.1 h
  cases ofSections_eq_iff.1 hsections with
  | score _ hmakes =>
    obtain ⟨t, -, hread⟩ := hmakes.settings
    exact hread.tempo.finite

/-- The dump of a score with a finite tempo is read as the score without the optional numbers
that are not finite, unless one of the others is not finite. -/
theorem read_toJson {s : Score} (htempo : s.settings.tempo.isFinite = true)
    (h : Exact s.numbers) :
    (Json.read s.toJson.render).bind ofJson? =
      if s.notes.all (·.plainNumbers.all Float.isFinite) then some s.withoutNonFinite
      else none := by
  rw [Json.read_render s.written_toJson, Option.bind_some, ofJson?_toJson h, htempo,
    Bool.true_and]

end Score

end VocalScore
