import VocalScore.Proofs.Score.FieldGrammar
import VocalScore.Proofs.Score.FieldText

/-!
# From the text of an envelope to its curve

The text of an envelope has seven to nine items, each of which is a number or leaves its slot
open. The times of the first four points are in the items 0, 1, 2 and 7, their heights in the items
3 to 6; the fifth point is there only if the item 8 is a number, and has no height.

## Key results

- `EnvelopeValue.read_eq_ok_iff` / `EnvelopeValue.read_eq_error_iff`: single items
- `read_eq_ok_iff` / `read_eq_error_iff`: which envelopes are read, and what is wrong with the
  others
- `toCurve_ofValues`: the points of the curve by the items of the text
- `text_to_curve`: all of these, and which envelopes read back from their texts
-/

namespace VocalScore

open Traversal

/-! ### Items -/

namespace EnvelopeValue

/-- The value that an item stands for: it is open if it is blank or `%`, and else a number. -/
inductive Stands (t : List Char) : EnvelopeValue → Prop
  | blank (h : t.all Text.isBlank = true) : Stands t .auto
  | percent (h : Text.trim t = ['%']) : Stands t .auto
  | number {x : Float} (h : Field.IsNumber t x) : Stands t (.literal x)

/-- An item leaves its slot open if nothing is left of it without white space, or just `%`. -/
theorem stands_auto_iff {t : List Char} :
    Stands t .auto ↔ Text.trim t = [] ∨ Text.trim t = ['%'] := by
  constructor
  · rintro (h | h)
    · exact Or.inl ((Text.all_isBlank_iff_trim t).1 h)
    · exact Or.inr h
  · rintro (h | h)
    · exact .blank ((Text.all_isBlank_iff_trim t).2 h)
    · exact .percent h

/-- An open item is no number. -/
theorem not_isNumber_of_open {t : List Char} (h : Text.trim t = [] ∨ Text.trim t = ['%'])
    (x : Float) : ¬Field.IsNumber t x := by
  rw [Field.IsNumber]
  rcases h with h | h <;> rw [h] <;> rintro ⟨⟩

/-- A value is read exactly if the text stands for it. -/
theorem read_eq_ok_iff {t : List Char} {v : EnvelopeValue} : read t = .ok v ↔ Stands t v := by
  rw [read]
  by_cases hopen : Text.trim t = [] ∨ Text.trim t = ['%']
  · simp only [if_pos hopen]
    constructor
    · rintro ⟨⟩
      exact stands_auto_iff.2 hopen
    · intro h
      cases h with
      | blank h => rfl
      | percent h => rfl
      | number h => exact absurd h (not_isNumber_of_open hopen _)
  · -- The reader trims before it looks for a number, which makes no difference to one.
    simp only [if_neg hopen, map_eq_ok_iff, Field.number_ofList_eq_ok_iff, Field.isNumber_trim]
    constructor
    · rintro ⟨x, hx, rfl⟩
      exact .number hx
    · intro h
      cases h with
      | blank h => exact absurd (stands_auto_iff.1 (.blank h)) hopen
      | percent h => exact absurd (stands_auto_iff.1 (.percent h)) hopen
      | number h => exact ⟨_, h, rfl⟩

/-- The error of a value has the text without the white space around it. -/
theorem read_eq_error_iff {t : List Char} {e : ScoreError} :
    read t = .error e ↔
      (∀ v, ¬Stands t v) ∧ e = .invalidNumber "Envelope" (String.ofList (Text.trim t)) := by
  refine FailsWith.eq_error_iff ?_ fun v => read_eq_ok_iff
  -- There is only one error, so it is enough to see that the reader makes no other.
  simp only [read]
  split
  · exact .ok _
  · refine FailsWith.map _ ?_
    rw [Field.number]
    split
    · exact .ok _
    · exact .error rfl

/-- An item stands for one value at most. -/
theorem eq_of_forall₂_stands {ts : List (List Char)} {vs vs' : List EnvelopeValue}
    (h : List.Forall₂ Stands ts vs) (h' : List.Forall₂ Stands ts vs') : vs = vs' := by
  have hread : Stands = fun t v => read t = .ok v := by
    funext t v
    exact propext read_eq_ok_iff.symm
  rw [hread, ← mapM_eq_ok_iff] at h h'
  exact Except.ok.inj (h.symm.trans h')

/-- An item stands for a value exactly if it is blank, `%` or a number. -/
theorem exists_stands_iff {t : List Char} :
    (∃ v, Stands t v) ↔
      t.all Text.isBlank = true ∨ Text.trim t = ['%'] ∨ ∃ x, Field.IsNumber t x := by
  constructor
  · rintro ⟨_, h | h | h⟩
    · exact Or.inl h
    · exact Or.inr (Or.inl h)
    · exact Or.inr (Or.inr ⟨_, h⟩)
  · rintro (h | h | ⟨x, h⟩)
    · exact ⟨_, .blank h⟩
    · exact ⟨_, .percent h⟩
    · exact ⟨_, .number h⟩

end EnvelopeValue

namespace Envelope

open EnvelopeValue (Stands)

/-! ### Texts -/

/-- The items of a text. -/
def items (s : String) : List (List Char) := Text.splitOn ',' s.toList

/-- A text is that of an envelope: it has seven to nine items, which fill the slots in their order;
slots without an item, and the volume that has no slot, are open. -/
structure Describes (s : String) (e : Envelope) : Prop where
  few : 7 ≤ (items s).length
  many : (items s).length ≤ 9
  slots : ∃ vs, List.Forall₂ Stands (items s) vs ∧
    e.values = vs ++ List.replicate (9 - vs.length) .auto
  v5 : e.v5 = .auto

/-- What is wrong with a text: the number of its items, or else its first item that is neither
open nor a number. -/
inductive Faulty (s : String) : ScoreError → Prop
  | few (h : (items s).length < 7) : Faulty s (.tooFewEnvelopeValues (items s).length)
  | many (h : 9 < (items s).length) : Faulty s (.tooManyEnvelopeValues (items s).length)
  | item {before after : List (List Char)} {t : List Char} (hfew : 7 ≤ (items s).length)
      (hmany : (items s).length ≤ 9) (hs : items s = before ++ t :: after)
      (hbefore : ∀ u ∈ before, ∃ v, Stands u v) (h : ∀ v, ¬Stands t v) :
      Faulty s (.invalidNumber "Envelope" (String.ofList (Text.trim t)))

/-- Slots at the end of a text that are open might as well be missing. -/
theorem ofValues_append_open (vs : List EnvelopeValue) (k : Nat) :
    ofValues (vs ++ List.replicate k .auto) = ofValues vs := by
  have hopen : ∀ v ∈ (vs ++ List.replicate k EnvelopeValue.auto).drop vs.length, v = .auto := by
    rw [List.drop_left]
    exact fun v => List.eq_of_mem_replicate
  rw [← ofValues_take hopen, List.take_left]

/-- The slots of an envelope have the values of a text, and those that are missing are open. -/
theorem ofValues_eq_iff {vs : List EnvelopeValue} {e : Envelope} (h : vs.length ≤ 9) :
    ofValues vs = e ↔ e.values = vs ++ List.replicate (9 - vs.length) .auto ∧ e.v5 = .auto := by
  constructor
  · rintro rfl
    -- Slots without a value are open, so the values may be filled up to nine.
    have hlength : (vs ++ List.replicate (9 - vs.length) EnvelopeValue.auto).length = 9 := by
      rw [List.length_append, List.length_replicate, Nat.add_sub_cancel' h]
    refine ⟨?_, rfl⟩
    rw [← ofValues_append_open vs (9 - vs.length), values_ofValues _ hlength]
  · rintro ⟨hvalues, hv5⟩
    rw [← ofValues_append_open vs (9 - vs.length), ← hvalues, ofValues_values hv5]

/-- With seven to nine items the items are read one by one. -/
theorem read_of_length {s : String} (hfew : 7 ≤ (items s).length) (hmany : (items s).length ≤ 9) :
    read s = ((items s).mapM EnvelopeValue.read).map ofValues := by
  rw [read]
  exact (if_neg (Nat.not_lt.2 hfew)).trans (if_neg (Nat.not_lt.2 hmany))

/-- With fewer than seven items the error is their number. -/
theorem read_of_few {s : String} (h : (items s).length < 7) :
    read s = .error (.tooFewEnvelopeValues (items s).length) := by
  rw [read]
  exact if_pos h

theorem read_of_many {s : String} (h : 9 < (items s).length) :
    read s = .error (.tooManyEnvelopeValues (items s).length) := by
  rw [read]
  exact (if_neg (Nat.not_lt.2 (Nat.le_trans (by decide) h.le))).trans (if_pos h)

/-- The number of items is too small, too great, or right. -/
theorem length_cases (s : String) :
    (items s).length < 7 ∨ 9 < (items s).length ∨
      7 ≤ (items s).length ∧ (items s).length ≤ 9 := by
  omega

/-- An envelope is read exactly if the text describes it. -/
theorem read_eq_ok_iff {s : String} {e : Envelope} : read s = .ok e ↔ Describes s e := by
  constructor
  · intro h
    rcases length_cases s with hfew | hmany | ⟨hfew, hmany⟩
    · rw [read_of_few hfew] at h
      cases h
    · rw [read_of_many hmany] at h
      cases h
    · -- Only a text of seven to nine items is read at all.
      rw [read_of_length hfew hmany, map_eq_ok_iff] at h
      obtain ⟨vs, hvs, he⟩ := h
      rw [mapM_eq_ok_iff] at hvs
      simp only [EnvelopeValue.read_eq_ok_iff] at hvs
      obtain ⟨hvalues, hv5⟩ := (ofValues_eq_iff (hvs.length_eq ▸ hmany)).1 he
      exact ⟨hfew, hmany, ⟨vs, hvs, hvalues⟩, hv5⟩
  · rintro ⟨hfew, hmany, ⟨vs, hvs, hvalues⟩, hv5⟩
    rw [read_of_length hfew hmany, map_eq_ok_iff]
    refine ⟨vs, ?_, (ofValues_eq_iff (hvs.length_eq ▸ hmany)).2 ⟨hvalues, hv5⟩⟩
    rw [mapM_eq_ok_iff]
    simpa only [EnvelopeValue.read_eq_ok_iff] using hvs

/-- The error of an envelope is the number of its items or, if that is right, the first wrong
item. -/
theorem read_eq_error_iff {s : String} {e : ScoreError} : read s = .error e ↔ Faulty s e := by
  constructor
  · intro h
    rcases length_cases s with hfew | hmany | ⟨hfew, hmany⟩
    · rw [read_of_few hfew] at h
      cases h
      exact .few hfew
    · rw [read_of_many hmany] at h
      cases h
      exact .many hmany
    · -- The number of items is checked first, so an item is wrong only if that is right.
      rw [read_of_length hfew hmany, map_eq_error_iff, mapM_eq_error_iff] at h
      simp only [EnvelopeValue.read_eq_ok_iff, EnvelopeValue.read_eq_error_iff] at h
      obtain ⟨before, t, after, hs, hbefore, ht, rfl⟩ := h
      exact .item hfew hmany hs hbefore ht
  · intro h
    cases h with
    | few h => exact read_of_few h
    | many h => exact read_of_many h
    | item hfew hmany hs hbefore h =>
      rw [read_of_length hfew hmany, map_eq_error_iff, mapM_eq_error_iff]
      simp only [EnvelopeValue.read_eq_ok_iff, EnvelopeValue.read_eq_error_iff]
      exact ⟨_, _, _, hs, hbefore, h, rfl⟩

/-! ### Curves -/

/-- The number in an item, or the given one if the item is open or missing. -/
def numberAt (vs : List EnvelopeValue) (k : Nat) (default : Float) : Float :=
  match vs[k]? with
  | some (.literal x) => x
  | _ => default

/-- The height in an item, in parts of one; an item that is open or missing is silent. -/
def heightAt (vs : List EnvelopeValue) (k : Nat) : Float :=
  match vs[k]? with
  | some (.literal v) => v / 100.0
  | _ => 0.0

/-- The points of the items of a text, for a note that lasts `ms` milliseconds. -/
def points (vs : List EnvelopeValue) (ms : Float) : Curve :=
  [⟨numberAt vs 0 0.0, heightAt vs 3, .linear⟩, ⟨numberAt vs 1 0.0, heightAt vs 4, .linear⟩,
    ⟨numberAt vs 2 0.0, heightAt vs 5, .linear⟩, ⟨numberAt vs 7 ms, heightAt vs 6, .linear⟩] ++
  match vs[8]? with
  | some (EnvelopeValue.literal x) => [⟨x, 0.0, .linear⟩]
  | _ => []

/-- The ninth item of a text is there, and it is not open. -/
def HasFifth (ts : List (List Char)) : Prop :=
  ∃ t, ts[8]? = some t ∧ t.all Text.isBlank = false ∧ Text.trim t ≠ ['%']

/-- An open slot takes the number that stands in for it. -/
theorem resolve_getD (vs : List EnvelopeValue) (k : Nat) (x : Float) :
    (vs.getD k .auto).resolve x = numberAt vs k x := by
  rw [List.getD_eq_getElem?_getD, numberAt]
  cases vs[k]? with
  | none => rfl
  | some v => cases v <;> rfl

theorem zero_div_hundred : (0.0 : Float) / 100.0 = 0.0 := by decide +kernel

/-- The point of a slot has its height, and zero if it is open. -/
theorem point_getD (vs : List EnvelopeValue) (k : Nat) (x : Float) :
    point x (vs.getD k .auto) = ⟨x, heightAt vs k, .linear⟩ := by
  rw [List.getD_eq_getElem?_getD, heightAt, point]
  cases vs[k]? with
  | none => exact congrArg (CurvePoint.mk x · .linear) zero_div_hundred
  | some v =>
    cases v with
    | auto => exact congrArg (CurvePoint.mk x · .linear) zero_div_hundred
    | literal y => rfl

/-- The points of the curve are those of the items of the text. -/
theorem toCurve_ofValues (vs : List EnvelopeValue) (ms : Float) :
    (ofValues vs).toCurve ms = points vs ms := by
  -- The fifth point is there if its place is given, since no text gives its height.
  have hfifth : (if (vs.getD 8 .auto).isAuto && EnvelopeValue.auto.isAuto then []
      else [point (numberAt vs 8 ms) .auto]) = match vs[8]? with
      | some (EnvelopeValue.literal x) => [⟨x, 0.0, .linear⟩]
      | _ => [] := by
    rw [List.getD_eq_getElem?_getD, numberAt]
    cases vs[8]? with
    | none => rfl
    | some v =>
      cases v with
      | auto => rfl
      | literal x => exact congrArg (fun y => [CurvePoint.mk x y .linear]) zero_div_hundred
  simp only [toCurve, ofValues, point_getD, resolve_getD, hfifth, points]

/-- The curve of a text has four points, and a fifth one if the ninth item is a number. -/
theorem length_points {ts : List (List Char)} {vs : List EnvelopeValue} (ms : Float)
    (h : List.Forall₂ Stands ts vs) :
    ((points vs ms).length = 5 ↔ HasFifth ts) ∧ ((points vs ms).length = 4 ↔ ¬HasFifth ts) := by
  rcases getElem?_of_forall₂ h 8 with ⟨ht, hv⟩ | ⟨t, v, ht, hv, hstands⟩
  · have hnot : ¬HasFifth ts := by
      rintro ⟨t, ht', -⟩
      rw [ht] at ht'
      cases ht'
    simp [points, hv, hnot]
  · cases v with
    | auto =>
      -- What is open was blank or a percent sign.
      have hnot : ¬HasFifth ts := by
        rintro ⟨t', ht', hblank, hpercent⟩
        rw [ht] at ht'
        cases ht'
        rcases hstands with h | h
        · rw [h] at hblank
          cases hblank
        · exact hpercent h
      simp [points, hv, hnot]
    | literal x =>
      -- What is read as a number is neither blank nor a percent sign.
      have hfifth : HasFifth ts := by
        rcases hstands with - | - | hx
        refine ⟨t, ht, Bool.eq_false_iff.2 fun hblank => ?_, fun hpercent => ?_⟩
        · exact Field.not_isNumber_of_blank hblank x hx
        · exact EnvelopeValue.not_isNumber_of_open (Or.inr hpercent) x hx
      simp [points, hv, hfifth]

/-- A text is that of an envelope exactly if it has the right number of items and each stands for a
value. -/
theorem exists_describes_iff {s : String} :
    (∃ e, Describes s e) ↔
      7 ≤ (items s).length ∧ (items s).length ≤ 9 ∧ ∀ t ∈ items s, ∃ v, Stands t v := by
  constructor
  · rintro ⟨e, hfew, hmany, ⟨vs, hvs, -⟩, -⟩
    exact ⟨hfew, hmany, exists_forall₂_iff.1 ⟨vs, hvs⟩⟩
  · rintro ⟨hfew, hmany, hitems⟩
    obtain ⟨vs, hvs⟩ := exists_forall₂_iff.2 hitems
    obtain ⟨hvalues, hv5⟩ := (ofValues_eq_iff (e := ofValues vs) (hvs.length_eq ▸ hmany)).1 rfl
    exact ⟨ofValues vs, hfew, hmany, ⟨vs, hvs, hvalues⟩, hv5⟩

/-- The envelope of a text has the curve of any reading of its items, and there is one. -/
theorem Describes.toCurve {s : String} {e : Envelope} (h : Describes s e) :
    ∃ vs, List.Forall₂ Stands (items s) vs ∧ ∀ ms, e.toCurve ms = points vs ms := by
  obtain ⟨vs, hvs, hvalues⟩ := h.slots
  have he : ofValues vs = e := (ofValues_eq_iff (hvs.length_eq ▸ h.many)).2 ⟨hvalues, h.v5⟩
  exact ⟨vs, hvs, fun ms => he ▸ toCurve_ofValues vs ms⟩

/-- A text is read as an envelope exactly if it has seven to nine items, each of which is blank, `%`
or a number; a wrong number of items is the error before any item, and among items the first that
is wrong. The items fill the slots in their order, and say where the points of the curve are: four
of them, and a fifth one if the ninth item is a number. An envelope without a volume at its fifth
point reads back from the text of its slots, of which those at the end may be left out if they are
open. -/
theorem text_to_curve (s : String) (ms : Float) :
    ((∃ e, read s = .ok e) ↔ 7 ≤ (items s).length ∧ (items s).length ≤ 9 ∧
      ∀ t ∈ items s, t.all Text.isBlank = true ∨ Text.trim t = ['%'] ∨ ∃ x, Field.IsNumber t x) ∧
    (∀ e, read s = .ok e ↔ Describes s e) ∧
    (∀ e, read s = .error e ↔ Faulty s e) ∧
    (∀ e, read s = .ok e →
      (∀ vs, List.Forall₂ Stands (items s) vs → e.toCurve ms = points vs ms) ∧
      ((e.toCurve ms).length = 5 ↔ HasFifth (items s)) ∧
      ((e.toCurve ms).length = 4 ↔ ¬HasFifth (items s))) ∧
    ∀ e : Envelope, e.v5 = .auto → ∀ n, 7 ≤ n → n ≤ 9 → (∀ v ∈ e.values.drop n, v = .auto) →
      read (e.renderFirst n) = .ok e := by
  refine ⟨?_, fun e => read_eq_ok_iff, fun e => read_eq_error_iff, fun e he => ?_,
    fun e hv5 n hfew hmany hopen => read_renderFirst hfew hmany hopen hv5⟩
  · simp only [read_eq_ok_iff, exists_describes_iff, EnvelopeValue.exists_stands_iff]
  · obtain ⟨vs, hvs, hcurve⟩ := (read_eq_ok_iff.1 he).toCurve
    rw [hcurve ms]
    refine ⟨fun vs' hvs' => ?_, length_points ms hvs⟩
    -- Items are read in one way, so any two lists of their values are one.
    rw [EnvelopeValue.eq_of_forall₂_stands hvs hvs']

/-- In a text of nine items with its second and eighth open, the ninth makes a fifth point. An
envelope whose last two slots are open reads back from its first seven. -/
theorem text_to_curve_nine :
    (∃ e, read "5,%,35,0,100,100,0, ,9" = .ok e ∧ (e.toCurve 480.0).length = 5) ∧
      read ((⟨.auto, .literal 5.0, .literal 35.0, .auto, .literal 100.0, .literal 100.0, .auto,
        .auto, .auto, .auto⟩ : Envelope).renderFirst 7) =
        .ok ⟨.auto, .literal 5.0, .literal 35.0, .auto, .literal 100.0, .literal 100.0, .auto,
          .auto, .auto, .auto⟩ := by
  obtain ⟨-, -, -, hcurve, hback⟩ := text_to_curve "5,%,35,0,100,100,0, ,9" 480.0
  have hread : ∃ e, read "5,%,35,0,100,100,0, ,9" = .ok e := ⟨_, rfl⟩
  obtain ⟨e, he⟩ := hread
  have hfifth : HasFifth (items "5,%,35,0,100,100,0, ,9") :=
    ⟨['9'], by decide, by decide, by decide⟩
  exact ⟨⟨e, he, ((hcurve e he).2.1).2 hfifth⟩, hback _ rfl 7 (by decide) (by decide) (by decide)⟩

end Envelope

end VocalScore
