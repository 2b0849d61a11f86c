import VocalScore.Proofs.Number.RoundTrip
import VocalScore.Proofs.Number.Visible
import VocalScore.Proofs.Score.BendGrammar
import VocalScore.Score.Envelope

/-!
# Values that are written read back

The plain text of a value is a number in its shortest digits, a list of numbers or codes between
commas, the slots of an envelope or the two numbers of a starting point. An empty list has the
empty text, which still is one field between commas: readers have to pass over it.

## Key results

- `Field.numbers_numbersText` / `Field.modes_modesText`: lists read back, the empty one included
- `Envelope.read_render`: an envelope reads back, if the volume that has no slot is left open, and
  `Envelope.read_renderFirst` without open slots at its end
- `PitchBend.read_texts`: a bend reads back from the texts of its parts
- `Field.visible_joined` and others on visible characters: no value has white space
-/

namespace VocalScore

open Traversal
open Text (isBlank)

/-! ### Items between commas -/

namespace Field

/-- A text that can stand between commas. -/
structure IsItem (s : List Char) : Prop where
  ne_nil : s ≠ []
  visible : ∀ c ∈ s, isBlank c = false
  comma : ',' ∉ s

/-- Items with commas between them. -/
def joined (items : List (List Char)) : String := String.ofList (Text.joinWith [','] items)

/-- Texts of one kind are items if each of them is. -/
theorem isItem_map {α : Type} {f : α → List Char} (h : ∀ a, IsItem (f a)) (l : List α) :
    ∀ s ∈ l.map f, IsItem s :=
  List.forall_mem_map.2 fun a _ => h a

variable {items : List (List Char)}

/-- Neither the items nor the commas between them are white space. -/
theorem visible_joined (h : ∀ s ∈ items, IsItem s) :
    ∀ c ∈ (joined items).toList, isBlank c = false := by
  rw [joined, String.toList_ofList]
  cases items with
  | nil => exact fun c hc => absurd hc List.not_mem_nil
  | cons s items =>
    intro c hc
    rw [Text.joinWith_cons, List.mem_append, List.mem_flatMap] at hc
    rcases hc with hc | ⟨t, ht, hc⟩
    · exact (h s List.mem_cons_self).visible c hc
    · -- Every later item comes after a comma, which is visible.
      rcases List.mem_cons.1 hc with rfl | hc
      · decide
      · exact (h t (List.mem_cons_of_mem s ht)).visible c hc

/-- Items that were joined come back, unless there are none. -/
theorem splitOn_joined (hne : items ≠ []) (h : ∀ s ∈ items, IsItem s) :
    Text.splitOn ',' (joined items).toList = items := by
  rw [joined, String.toList_ofList]
  exact Text.splitOn_joinWith hne fun s hs => (h s hs).comma

/-- A text with items is not taken for an empty list. -/
theorem blank_joined (hne : items ≠ []) (h : ∀ s ∈ items, IsItem s) :
    Text.blank (joined items) = false := by
  apply Text.all_isBlank_eq_false _ (visible_joined h)
  obtain ⟨s, rest, rfl⟩ := List.exists_cons_of_ne_nil hne
  rw [joined, String.toList_ofList, Text.joinWith_cons]
  exact List.append_ne_nil_of_left_ne_nil (h s List.mem_cons_self).ne_nil _

/-! ### Numbers -/

/-- A list whose items are numbers lists these numbers. -/
theorem isNumbers_joined {xs : List Float} (hne : items ≠ []) (hcomma : ∀ s ∈ items, ',' ∉ s)
    (h : List.Forall₂ IsNumber items xs) : IsNumbers (joined items).toList xs := by
  apply IsNumbers.items
  rwa [joined, String.toList_ofList, Text.splitOn_joinWith hne hcomma]

/-- The digits of a number can stand between commas. -/
theorem isItem_plain (x : Float) : IsItem (Number.plain x) where
  ne_nil hnil := by
    have hread := Number.read_plain x
    rw [hnil] at hread
    cases hread
  visible := Number.isBlank_of_read (Number.read_plain x)
  comma hmem := by
    cases (Number.isTextOf_plain x).isTextChar hmem

/-- Trimming takes nothing away from the digits of a number. -/
theorem trim_plain (x : Float) : Text.trim (Number.plain x) = Number.plain x :=
  Text.trim_eq_self (isItem_plain x).visible

/-- The digits of a number as characters. -/
theorem toList_plainString (x : Float) : (Number.plainString x).toList = Number.plain x :=
  String.toList_ofList

/-- The digits of a number have no white space. -/
theorem visible_plainString (x : Float) :
    ∀ c ∈ (Number.plainString x).toList, isBlank c = false := by
  rw [toList_plainString]
  exact (isItem_plain x).visible

/-- Every number has digits, so that its text does not stand for a missing value. -/
theorem plainString_ne (x : Float) : Number.plainString x ≠ "" := by
  rw [ne_eq, ← String.toList_eq_nil_iff, toList_plainString]
  exact (isItem_plain x).ne_nil

/-- The digits of a number are not taken for an open value. -/
theorem blank_plainString (x : Float) : Text.blank (Number.plainString x) = false := by
  apply Text.all_isBlank_eq_false _ (visible_plainString x)
  rw [toList_plainString]
  exact (isItem_plain x).ne_nil

/-- The digits of a number stand for the number. -/
theorem isNumber_plain (x : Float) : IsNumber (Number.plain x) x := by
  rw [IsNumber, trim_plain, Number.read_plain]

/-- A number that is written in its shortest digits reads back. -/
theorem number_plainString (field : String) (x : Float) :
    number field (Number.plainString x) = .ok x :=
  number_ofList_eq_ok_iff.2 (isNumber_plain x)

/-- The text of numbers. -/
def numbersText (xs : List Float) : String := joined (xs.map Number.plain)

/-- The text of a list of numbers has no white space. -/
theorem visible_numbersText (xs : List Float) :
    ∀ c ∈ (numbersText xs).toList, isBlank c = false :=
  visible_joined (isItem_map isItem_plain xs)

/-- A list of numbers reads back, the empty one included. -/
theorem numbers_numbersText (field : String) (xs : List Float) :
    numbers field (numbersText xs) = .ok xs := by
  rw [numbers_eq_ok_iff, numbersText]
  -- The text without numbers is blank; any other has the numbers as its items.
  cases xs with
  | nil => exact .blank rfl
  | cons x xs =>
    apply isNumbers_joined
    · exact List.cons_ne_nil _ _
    · exact fun s hs => (isItem_map isItem_plain (x :: xs) s hs).comma
    · rw [List.forall₂_map_left_iff, List.forall₂_same]
      exact fun y _ => isNumber_plain y

/-! ### Modes -/

/-- A visible character other than a comma is an item. -/
theorem isItem_singleton {c : Char} (hc : isBlank c = false) (hcomma : c ≠ ',') : IsItem [c] where
  ne_nil := List.cons_ne_nil c []
  visible := by
    intro d hd
    rwa [List.mem_singleton.1 hd]
  comma hmem := hcomma (List.mem_singleton.1 hmem).symm

/-- The letter of a mode can stand between commas. -/
theorem isItem_code (m : Interpolation) : IsItem m.code.toList := by
  cases m with
  | linear => exact isItem_singleton (c := 'l') (by decide) (by decide)
  | sine => exact isItem_singleton (c := 's') (by decide) (by decide)
  | rigid => exact isItem_singleton (c := 'r') (by decide) (by decide)
  | jump => exact isItem_singleton (c := 'j') (by decide) (by decide)

/-- The text of modes. -/
def modesText (ms : List Interpolation) : String := joined (ms.map (·.code.toList))

/-- The text of a list of modes has no white space. -/
theorem visible_modesText (ms : List Interpolation) :
    ∀ c ∈ (modesText ms).toList, isBlank c = false :=
  visible_joined (isItem_map isItem_code ms)

/-- A list of modes reads back, the empty one included. -/
theorem modes_modesText (ms : List Interpolation) : modes (modesText ms) = .ok ms := by
  rw [modes_eq_ok_iff, IsModes, modesText]
  -- The text without modes is one blank item; any other has the codes as its items.
  cases ms with
  | nil => exact .nil
  | cons m ms =>
    have hne : (m :: ms).map (·.code.toList) ≠ [] := List.cons_ne_nil _ _
    have hitems := isItem_map isItem_code (m :: ms)
    rw [splitOn_joined hne hitems, List.filter_eq_self.2 ?_, List.forall₂_map_left_iff,
      List.forall₂_same]
    · intro k _
      rw [isCode_iff, Text.trim_eq_self (isItem_code k).visible, String.ofList_toList]
    · intro s hs
      rw [Text.all_isBlank_eq_false (hitems s hs).ne_nil (hitems s hs).visible]
      rfl

end Field

/-! ### Envelopes -/

/-- A slot of an envelope can stand between commas. -/
theorem EnvelopeValue.isItem_render (v : EnvelopeValue) : Field.IsItem v.render.toList := by
  cases v with
  | auto => exact Field.isItem_singleton (c := '%') (by decide) (by decide)
  | literal x =>
    rw [render, Field.toList_plainString]
    exact Field.isItem_plain x

/-- A slot of an envelope reads back, be it open or a number. -/
theorem EnvelopeValue.read_render (v : EnvelopeValue) : read v.render.toList = .ok v := by
  cases v with
  | auto => rfl
  | literal x =>
    -- A number is neither empty nor the sign of an open value, since neither reads.
    have hopen : ¬(Number.plain x = [] ∨ Number.plain x = ['%']) := by
      rintro (h | h)
      · exact (Field.isItem_plain x).ne_nil h
      · have hread := Number.read_plain x
        rw [h] at hread
        cases hread
    have hnumber : Field.number "Envelope" (String.ofList (Number.plain x)) = .ok x :=
      Field.number_plainString "Envelope" x
    rw [render, Field.toList_plainString, read, Field.trim_plain]
    simp only [if_neg hopen, hnumber, Except.map]

namespace Envelope

/-- The text of an envelope: its slots in the order of a text. -/
def render (e : Envelope) : String := Field.joined (e.values.map (·.render.toList))

/-- A written envelope has no white space. -/
theorem visible_render (e : Envelope) : ∀ c ∈ e.render.toList, isBlank c = false :=
  Field.visible_joined (Field.isItem_map EnvelopeValue.isItem_render e.values)

/-- An envelope whose last slot is open is made of the values that are written. -/
theorem ofValues_values {e : Envelope} (h : e.v5 = .auto) : ofValues e.values = e := by
  obtain ⟨p1, p2, p3, v1, v2, v3, v4, p4, p5, v5⟩ := e
  subst h
  rfl

/-- Values that are open may be left out at the end of a text. -/
theorem ofValues_take {vs : List EnvelopeValue} {n : Nat} (h : ∀ v ∈ vs.drop n, v = .auto) :
    ofValues (vs.take n) = ofValues vs := by
  have hslot : ∀ i, (vs.take n).getD i .auto = vs.getD i .auto := by
    intro i
    rw [List.getD_eq_getElem?_getD, List.getD_eq_getElem?_getD, List.getElem?_take]
    split
    · rfl
    next hi =>
      -- A slot that was left out is open, or beyond the end.
      cases hv : vs[i]? with
      | none => rfl
      | some v =>
        have hdrop : (vs.drop n)[i - n]? = some v := by
          rw [List.getElem?_drop, Nat.add_sub_cancel' (Nat.le_of_not_lt hi), hv]
        rw [h v (List.mem_of_getElem? hdrop)]
        rfl
  simp only [ofValues, hslot]

/-- The text of the first slots of an envelope. -/
def renderFirst (n : Nat) (e : Envelope) : String :=
  Field.joined ((e.values.take n).map (·.render.toList))

/-- The text of the first slots reads back as the envelope, if the slots that are left out and the
volume that has no place in a text are open. -/
theorem read_renderFirst {e : Envelope} {n : Nat} (hfew : minValues ≤ n) (hmany : n ≤ maxValues)
    (hopen : ∀ v ∈ e.values.drop n, v = .auto) (h : e.v5 = .auto) :
    read (e.renderFirst n) = .ok e := by
  have hlength : ((e.values.take n).map (·.render.toList)).length = n := by
    rw [List.length_map, List.length_take]
    exact Nat.min_eq_left hmany
  have hsplit : Text.splitOn ',' (e.renderFirst n).toList =
      (e.values.take n).map (·.render.toList) := by
    apply Field.splitOn_joined _ (Field.isItem_map EnvelopeValue.isItem_render _)
    rw [← List.length_pos_iff, hlength]
    exact Nat.lt_of_lt_of_le (by decide) hfew
  -- The text has as many items as are written, and each is read back as it was.
  have hvalues : ((e.values.take n).map (·.render.toList)).mapM EnvelopeValue.read =
      .ok (e.values.take n) := by
    rw [mapM_eq_ok_iff, List.forall₂_map_left_iff, List.forall₂_same]
    exact fun v _ => v.read_render
  rw [read]
  simp only [hsplit, hlength, if_neg (Nat.not_lt.2 hfew), if_neg (Nat.not_lt.2 hmany), hvalues,
    Except.map, ofValues_take hopen, ofValues_values h]

/-- The text of an envelope reads back, if the volume that has no place in it is left open. -/
theorem read_render {e : Envelope} (h : e.v5 = .auto) : read e.render = .ok e :=
  read_renderFirst (n := maxValues) (by decide) (Nat.le_refl _)
    (fun _ hv => absurd hv List.not_mem_nil) h

/-- A written envelope is not empty. -/
theorem render_ne (e : Envelope) : e.render ≠ "" := by
  intro h
  have hblank : Text.blank e.render = false :=
    Field.blank_joined (List.cons_ne_nil _ _)
      (Field.isItem_map EnvelopeValue.isItem_render e.values)
  rw [h] at hblank
  cases hblank

end Envelope

/-! ### Pitch bends -/

namespace PitchBend

/-- The text of a starting point. -/
def pointText (p : BendPoint) : String :=
  String.ofList (Number.plain p.x ++ ';' :: Number.plain p.y)

/-- A written point has no white space. -/
theorem visible_pointText (p : BendPoint) : ∀ c ∈ (pointText p).toList, isBlank c = false := by
  intro c hc
  rw [pointText, String.toList_ofList, List.mem_append, List.mem_cons] at hc
  rcases hc with hc | rfl | hc
  · exact (Field.isItem_plain p.x).visible c hc
  · decide
  · exact (Field.isItem_plain p.y).visible c hc

/-- A written point is not blank. -/
theorem blank_pointText (p : BendPoint) : Text.blank (pointText p) = false := by
  apply Text.all_isBlank_eq_false _ (visible_pointText p)
  rw [pointText, String.toList_ofList]
  exact List.append_ne_nil_of_right_ne_nil _ (List.cons_ne_nil _ _)

/-- A written point is read back. -/
theorem readPoint_pointText (p : BendPoint) : readPoint (pointText p) = .ok p := by
  -- No number has a semicolon, so the text is cut between its two numbers.
  have hx : ';' ∉ Number.plain p.x := by
    intro hmem
    cases (Number.isTextOf_plain p.x).isTextChar hmem
  exact readPoint_eq_ok_iff.2
    (.pair String.toList_ofList hx (Field.isNumber_plain p.x) (Field.isNumber_plain p.y))

/-- A written integer has no white space. -/
theorem visible_decimal (n : Int) : ∀ c ∈ (Text.decimalString n).toList, isBlank c = false := by
  intro c hc
  rw [Text.decimalString, String.toList_ofList] at hc
  rcases Number.mem_decimal hc with rfl | hc
  · decide
  · exact Number.isBlank_of_isDigit hc

/-- A written kind is read back. -/
theorem readKind_decimal (kind : Int32) :
    readKind (Text.decimalString kind.toInt) = .ok kind := by
  refine readKind_eq_ok_iff.2 (.whole ?_)
  rw [Text.trim_eq_self (visible_decimal kind.toInt), Text.decimalString, String.toList_ofList]
  exact Number.isWhole_decimal kind.toInt

/-- A bend reads back from the texts of its parts, with the newer key for its start. -/
theorem read_texts (b : PitchBend) :
    read (Text.decimalString b.kind.toInt) "" (pointText b.start)
      (Field.numbersText b.widths) (Field.numbersText b.ys) (Field.modesText b.modes) =
      .ok b := by
  have hstart : readStart "" (pointText b.start) = .ok b.start := by
    rw [readStart, blank_pointText, readPoint_pointText]
    rfl
  rw [read, readKind_decimal, hstart, Field.modes_modesText, Field.numbers_numbersText,
    Field.numbers_numbersText]
  rfl

end PitchBend

end VocalScore
