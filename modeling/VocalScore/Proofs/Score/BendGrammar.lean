import VocalScore.Proofs.Number.Digits
import VocalScore.Proofs.Score.FieldGrammar
import VocalScore.Score.PitchBend

/-!
# The grammar of pitch bends

A bend is made of six texts: its type, two places for its start of which the first that is not
blank is in force, its widths, its heights and its modes. Each text has a grammar of its own, and
none depends on another. What is wrong with a bend is the first thing that is wrong with its type,
its start, its modes, its widths or its heights, in this order.

## Key results

- `readKind_eq_ok_iff` / `readKind_eq_error_iff`: types
- `readPoint_eq_ok_iff` / `readPoint_eq_error_iff`: starting points
- `readStart_eq_ok_iff` / `readStart_eq_error_iff`: which of two starting points is read
- `read_eq_ok_iff` / `read_eq_error_iff`: which bends are read, and what is wrong with the others
- `read_six_texts`: both, and what follows for the two places of the start
-/

namespace VocalScore.PitchBend

open Traversal
open VocalScore.Field (IsNumber IsNumbers IsModes IsCode FaultyNumbers FaultyModes)

/-! ### Types -/

/-- The type that a text stands for: the usual one if it is blank, or a whole number of 32 bits. -/
inductive IsKind (s : String) : Int32 → Prop
  | blank (h : Text.blank s = true) : IsKind s 5
  | whole {k : Int32} (h : Number.IsWhole (Text.trim s.toList) k.toInt) : IsKind s k

/-- A kind is read exactly if the text stands for one. -/
theorem readKind_eq_ok_iff {s : String} {k : Int32} : readKind s = .ok k ↔ IsKind s k := by
  by_cases hblank : Text.trim s.toList = []
  · have hs : Text.blank s = true := (Text.all_isBlank_iff_trim s.toList).2 hblank
    simp only [readKind, if_pos hblank]
    constructor
    · rintro ⟨⟩
      exact .blank hs
    · rintro (_ | h)
      · rfl
      · exact absurd hblank h.ne_nil
  · simp only [readKind, if_neg hblank]
    constructor
    · intro h
      split at h
      next n hn =>
        cases h
        obtain ⟨hwhole, hlo, hhi⟩ := Number.readInt_eq_some_iff.1 hn
        -- `Int32.ofInt` wraps, so the bounds of the reader are needed to get the number back.
        have hmin : Int32.minValue.toInt = -2 ^ 31 := by decide
        have hmax : Int32.maxValue.toInt = 2 ^ 31 - 1 := by decide
        refine .whole ?_
        rwa [Int32.toInt_ofInt_of_le (by omega) (by omega)]
      · cases h
    · rintro (h | h)
      · exact absurd ((Text.all_isBlank_iff_trim s.toList).1 h) hblank
      · rw [Number.readInt_eq_some_iff.2 ⟨h, k.minValue_le_toInt, k.toInt_le⟩]
        simp only [Int32.ofInt_toInt]

/-- The error of a kind has the text without the white space around it. -/
theorem readKind_eq_error_iff {s : String} {e : ScoreError} :
    readKind s = .error e ↔ (∀ k, ¬IsKind s k) ∧ e = .invalidBendType (Text.trimmed s) := by
  refine FailsWith.eq_error_iff ?_ fun k => readKind_eq_ok_iff
  simp only [readKind]
  split
  · exact .ok _
  · split
    · exact .ok _
    · exact .error rfl

/-! ### Starting points -/

/-- The point that a text stands for: a number, or two with `;` between them of which the second
may be left blank. -/
inductive IsPoint (s : String) : BendPoint → Prop
  | alone {x : Float} (hs : ';' ∉ s.toList) (hx : IsNumber s.toList x) : IsPoint s ⟨x, 0.0⟩
  | blank {a b : List Char} {x : Float} (hs : s.toList = a ++ ';' :: b) (ha : ';' ∉ a)
      (hx : IsNumber a x) (hb : b.all Text.isBlank = true) : IsPoint s ⟨x, 0.0⟩
  | pair {a b : List Char} {x y : Float} (hs : s.toList = a ++ ';' :: b) (ha : ';' ∉ a)
      (hx : IsNumber a x) (hy : IsNumber b y) : IsPoint s ⟨x, y⟩

/-- What is wrong with a point: what stands before its first `;` is no number, or else what stands
after it is neither a number nor blank. -/
inductive FaultyPoint (s : String) : ScoreError → Prop
  | alone (hs : ';' ∉ s.toList) (hx : ∀ x, ¬IsNumber s.toList x) :
      FaultyPoint s (.invalidNumber "PBStart" s)
  | first {a b : List Char} (hs : s.toList = a ++ ';' :: b) (ha : ';' ∉ a)
      (hx : ∀ x, ¬IsNumber a x) : FaultyPoint s (.invalidNumber "PBStart" (String.ofList a))
  | second {a b : List Char} {x : Float} (hs : s.toList = a ++ ';' :: b) (ha : ';' ∉ a)
      (hx : IsNumber a x) (hb : b.all Text.isBlank = false) (hy : ∀ y, ¬IsNumber b y) :
      FaultyPoint s (.invalidNumber "PBStart" (String.ofList b))

/-- A text has no `;`, or a first one. -/
theorem not_mem_or_exists_append (s : List Char) :
    ';' ∉ s ∨ ∃ a b, s = a ++ ';' :: b ∧ ';' ∉ a := by
  cases hsplit : Text.splitOnce ';' s with
  | none => exact Or.inl (Text.splitOnce_eq_none.1 hsplit)
  | some p => exact Or.inr ⟨p.1, p.2, Text.splitOnce_eq_some.1 hsplit⟩

variable {s : String} {a b : List Char}

/-- Without a semicolon a point is a time, at height zero. -/
theorem readPoint_of_not_mem (h : ';' ∉ s.toList) :
    readPoint s = (Field.number "PBStart" s).map fun x => ⟨x, 0.0⟩ := by
  rw [readPoint, Text.splitOnce_eq_none.2 h]
  cases Field.number "PBStart" s <;> rfl

/-- The first semicolon parts the time from the height, which may be blank. -/
theorem readPoint_of_append (hs : s.toList = a ++ ';' :: b) (ha : ';' ∉ a) :
    readPoint s = (Field.number "PBStart" (String.ofList a)).bind fun x =>
      if b.all Text.isBlank then .ok ⟨x, 0.0⟩
      else (Field.number "PBStart" (String.ofList b)).map fun y => ⟨x, y⟩ := by
  simp only [readPoint, hs, Text.splitOnce_append ha, bind]
  rfl

/-- A point is read exactly if the text stands for one. -/
theorem readPoint_eq_ok_iff {p : BendPoint} : readPoint s = .ok p ↔ IsPoint s p := by
  constructor
  · intro h
    -- The text has no semicolon, or it is cut at the first one.
    rcases not_mem_or_exists_append s.toList with hs | ⟨a, b, hs, ha⟩
    · rw [readPoint_of_not_mem hs, map_eq_ok_iff] at h
      obtain ⟨x, hx, rfl⟩ := h
      exact .alone hs (Field.number_eq_ok_iff.1 hx)
    · rw [readPoint_of_append hs ha, bind_eq_ok_iff] at h
      obtain ⟨x, hx, h⟩ := h
      have hx := Field.number_ofList_eq_ok_iff.1 hx
      split at h
      next hb =>
        cases h
        exact .blank hs ha hx hb
      next hb =>
        obtain ⟨y, hy, rfl⟩ := map_eq_ok_iff.1 h
        exact .pair hs ha hx (Field.number_ofList_eq_ok_iff.1 hy)
  · intro h
    cases h with
    | alone hs hx =>
      rw [readPoint_of_not_mem hs, Field.number_eq_ok_iff.2 hx]
      rfl
    | blank hs ha hx hb =>
      rw [readPoint_of_append hs ha, Field.number_ofList_eq_ok_iff.2 hx]
      exact if_pos hb
    | pair hs ha hx hy =>
      rw [readPoint_of_append hs ha, Field.number_ofList_eq_ok_iff.2 hx,
        Field.number_ofList_eq_ok_iff.2 hy]
      -- A blank height is no number, so it is the case before.
      exact if_neg fun hb => Field.not_isNumber_of_blank hb _ hy

/-- The error of a point is that of its time or, if that is right, of its height. -/
theorem readPoint_eq_error_iff {e : ScoreError} : readPoint s = .error e ↔ FaultyPoint s e := by
  constructor
  · intro h
    rcases not_mem_or_exists_append s.toList with hs | ⟨a, b, hs, ha⟩
    · rw [readPoint_of_not_mem hs, map_eq_error_iff, Field.number_eq_error_iff] at h
      obtain ⟨hx, rfl⟩ := h
      exact .alone hs hx
    · rw [readPoint_of_append hs ha, bind_eq_error_iff] at h
      rcases h with hx | ⟨x, hx, h⟩
      · obtain ⟨hnot, rfl⟩ := Field.number_ofList_eq_error_iff.1 hx
        exact .first hs ha hnot
      · -- A blank height cannot be wrong.
        split at h
        next hb => cases h
        next hb =>
          rw [map_eq_error_iff, Field.number_ofList_eq_error_iff] at h
          obtain ⟨hy, rfl⟩ := h
          exact .second hs ha (Field.number_ofList_eq_ok_iff.1 hx) (Bool.eq_false_iff.2 hb) hy
  · intro h
    cases h with
    | alone hs hx =>
      rw [readPoint_of_not_mem hs, Field.number_eq_error_iff.2 ⟨hx, rfl⟩]
      rfl
    | first hs ha hx =>
      rw [readPoint_of_append hs ha, Field.number_ofList_eq_error_iff.2 ⟨hx, rfl⟩]
      rfl
    | second hs ha hx hb hy =>
      rw [readPoint_of_append hs ha, Field.number_ofList_eq_ok_iff.2 hx,
        Field.number_ofList_eq_error_iff.2 ⟨hy, rfl⟩]
      exact if_neg (Bool.eq_false_iff.1 hb)

/-! ### The text in force -/

/-- The text that says where a bend starts: the first of two that is not blank, if there is one. -/
def inForce? (start fallback : String) : Option String :=
  [start, fallback].find? fun s => !Text.blank s

/-- The start that a text in force stands for; without one it is that of the note. -/
inductive IsStart (start fallback : String) : BendPoint → Prop
  | origin (h : inForce? start fallback = none) : IsStart start fallback ⟨0.0, 0.0⟩
  | point {s : String} {p : BendPoint} (h : inForce? start fallback = some s) (hp : IsPoint s p) :
      IsStart start fallback p

/-- What is wrong with a start is what is wrong with the text in force. -/
inductive FaultyStart (start fallback : String) : ScoreError → Prop
  | point {s : String} {e : ScoreError} (h : inForce? start fallback = some s)
      (he : FaultyPoint s e) : FaultyStart start fallback e

variable {start fallback : String}

/-- A start that is not blank is in force. -/
theorem inForce?_of_not_blank (h : Text.blank start = false) :
    inForce? start fallback = some start := by
  rw [inForce?, List.find?_cons_of_pos]
  rw [h]
  rfl

/-- The start is read from the text in force, and is zero without one. -/
theorem readStart_eq (start fallback : String) :
    readStart start fallback =
      match inForce? start fallback with
      | some s => readPoint s
      | none => .ok origin := by
  rw [readStart, inForce?]
  cases hs : Text.blank start <;> cases hf : Text.blank fallback <;> simp [hs, hf]

/-- Where a text is in force, the start is its point. -/
theorem isStart_iff {s : String} {p : BendPoint} (h : inForce? start fallback = some s) :
    IsStart start fallback p ↔ IsPoint s p := by
  constructor
  · rintro (hs | ⟨hs, hp⟩)
    · rw [h] at hs
      cases hs
    · rw [h] at hs
      cases hs
      exact hp
  · exact .point h

/-- A start is read exactly if the texts stand for one. -/
theorem readStart_eq_ok_iff {p : BendPoint} :
    readStart start fallback = .ok p ↔ IsStart start fallback p := by
  rw [readStart_eq]
  cases h : inForce? start fallback with
  -- No text in force: the bend starts at the note.
  | none =>
    constructor
    · rintro ⟨⟩
      exact .origin h
    · rintro (_ | ⟨hs, -⟩)
      · rfl
      · rw [h] at hs
        cases hs
  | some s => rw [isStart_iff h, readPoint_eq_ok_iff]

/-- The error of a start is that of the point in force. -/
theorem readStart_eq_error_iff {e : ScoreError} :
    readStart start fallback = .error e ↔ FaultyStart start fallback e := by
  rw [readStart_eq]
  cases h : inForce? start fallback with
  | none =>
    constructor
    · rintro ⟨⟩
    · rintro ⟨hs, -⟩
      rw [h] at hs
      cases hs
  | some s =>
    constructor
    · exact fun he => .point h (readPoint_eq_error_iff.1 he)
    · rintro ⟨hs, he⟩
      rw [h] at hs
      cases hs
      exact readPoint_eq_error_iff.2 he

/-! ### Bends -/

variable (kind start fallback widths ys modes : String)

/-- Six texts are those of a bend: each of its parts is what its text stands for. -/
structure Describes (b : PitchBend) : Prop where
  kind : IsKind kind b.kind
  start : IsStart start fallback b.start
  modes : IsModes modes.toList b.modes
  widths : IsNumbers widths.toList b.widths
  ys : IsNumbers ys.toList b.ys

/-- What is wrong with six texts: the first thing in the order type, start, modes, widths and
heights. -/
inductive Faulty : ScoreError → Prop
  | kind (h : ∀ k, ¬IsKind kind k) : Faulty (.invalidBendType (Text.trimmed kind))
  | start {k : Int32} {e : ScoreError} (hkind : IsKind kind k) (h : FaultyStart start fallback e) :
      Faulty e
  | modes {k : Int32} {p : BendPoint} {e : ScoreError} (hkind : IsKind kind k)
      (hstart : IsStart start fallback p) (h : FaultyModes modes.toList e) : Faulty e
  | widths {k : Int32} {p : BendPoint} {ms : List Interpolation} {e : ScoreError}
      (hkind : IsKind kind k) (hstart : IsStart start fallback p) (hmodes : IsModes modes.toList ms)
      (h : FaultyNumbers "PBW" widths.toList e) : Faulty e
  | ys {k : Int32} {p : BendPoint} {ms : List Interpolation} {ws : List Float} {e : ScoreError}
      (hkind : IsKind kind k) (hstart : IsStart start fallback p) (hmodes : IsModes modes.toList ms)
      (hwidths : IsNumbers widths.toList ws) (h : FaultyNumbers "PBY" ys.toList e) : Faulty e

variable {kind start fallback widths ys modes}

/-- A bend is read exactly if its six texts describe one. -/
theorem read_eq_ok_iff {b : PitchBend} :
    read kind start fallback widths ys modes = .ok b ↔
      Describes kind start fallback widths ys modes b := by
  simp only [read, bind, bind_eq_ok_iff, readKind_eq_ok_iff, readStart_eq_ok_iff,
    Field.modes_eq_ok_iff, Field.numbers_eq_ok_iff]
  constructor
  · rintro ⟨k, hk, p, hp, ms, hms, ws, hws, hs, hhs, ⟨⟩⟩
    exact ⟨hk, hp, hms, hws, hhs⟩
  · rintro ⟨hk, hp, hms, hws, hhs⟩
    exact ⟨_, hk, _, hp, _, hms, _, hws, _, hhs, rfl⟩

/-- The error of a bend is that of the first text that is wrong: kind, start, modes, widths,
heights. -/
theorem read_eq_error_iff {e : ScoreError} :
    read kind start fallback widths ys modes = .error e ↔
      Faulty kind start fallback widths ys modes e := by
  simp only [read, bind, bind_eq_error_iff, readKind_eq_ok_iff, readStart_eq_ok_iff,
    Field.modes_eq_ok_iff, Field.numbers_eq_ok_iff, readKind_eq_error_iff, readStart_eq_error_iff,
    Field.modes_eq_error_iff, Field.numbers_eq_error_iff]
  constructor
  · -- One case for each text, with those before it read.
    rintro (⟨hk, rfl⟩ | ⟨k, hk, h⟩)
    · exact .kind hk
    · rcases h with h | ⟨p, hp, h⟩
      · exact .start hk h
      · rcases h with h | ⟨ms, hms, h⟩
        · exact .modes hk hp h
        · rcases h with h | ⟨ws, hws, h⟩
          · exact .widths hk hp hms h
          · rcases h with h | ⟨hs, -, h⟩
            · exact .ys hk hp hms hws h
            · cases h
  · intro h
    cases h with
    | kind h => exact Or.inl ⟨h, rfl⟩
    | start hk h => exact Or.inr ⟨_, hk, Or.inl h⟩
    | modes hk hp h => exact Or.inr ⟨_, hk, Or.inr ⟨_, hp, Or.inl h⟩⟩
    | widths hk hp hms h => exact Or.inr ⟨_, hk, Or.inr ⟨_, hp, Or.inr ⟨_, hms, Or.inl h⟩⟩⟩
    | ys hk hp hms hws h =>
      exact Or.inr ⟨_, hk, Or.inr ⟨_, hp, Or.inr ⟨_, hms, Or.inr ⟨_, hws, Or.inl h⟩⟩⟩⟩

/-- Six texts make a bend exactly if each of them is in its grammar. -/
theorem exists_describes_iff :
    (∃ b, Describes kind start fallback widths ys modes b) ↔
      (∃ k, IsKind kind k) ∧ (∃ p, IsStart start fallback p) ∧
        (∃ ms, IsModes modes.toList ms) ∧ (∃ ws, IsNumbers widths.toList ws) ∧
        ∃ hs, IsNumbers ys.toList hs := by
  constructor
  · rintro ⟨b, h⟩
    exact ⟨⟨_, h.kind⟩, ⟨_, h.start⟩, ⟨_, h.modes⟩, ⟨_, h.widths⟩, ⟨_, h.ys⟩⟩
  · rintro ⟨⟨k, hk⟩, ⟨p, hp⟩, ⟨ms, hms⟩, ⟨ws, hws⟩, hs, hhs⟩
    exact ⟨⟨k, p, ws, hs, ms⟩, hk, hp, hms, hws, hhs⟩

/-- The other text of a start does not matter if the first one is not blank. -/
theorem read_of_not_blank (h : Text.blank start = false) (other : String) :
    read kind start other widths ys modes = read kind start fallback widths ys modes := by
  simp only [read, readStart_eq, inForce?_of_not_blank h]

/-- Six texts are read exactly if the type is blank or a whole number of 32 bits, the start in force
is a point, each item of the modes is blank or a code, and widths and heights are blank or lists of
numbers; their lengths do not matter. The bend is then the one that they describe. Otherwise the
error is what is wrong with the first of type, start, modes, widths and heights, and for a list
with its first item that is wrong. A first place of the start that is not blank is in force even
if it is no point, whatever the second place holds. -/
theorem read_six_texts (kind start fallback widths ys modes : String) :
    (∀ b, read kind start fallback widths ys modes = .ok b ↔
      Describes kind start fallback widths ys modes b) ∧
    ((∃ b, read kind start fallback widths ys modes = .ok b) ↔
      (∃ k, IsKind kind k) ∧ (∃ p, IsStart start fallback p) ∧
        (∀ t ∈ Text.splitOn ',' modes.toList, t.all Text.isBlank = true ∨ ∃ m, IsCode t m) ∧
        (Text.blank widths = true ∨ ∀ t ∈ Text.splitOn ',' widths.toList, ∃ x, IsNumber t x) ∧
        (Text.blank ys = true ∨ ∀ t ∈ Text.splitOn ',' ys.toList, ∃ x, IsNumber t x)) ∧
    (∀ e, read kind start fallback widths ys modes = .error e ↔
      Faulty kind start fallback widths ys modes e) ∧
    (Text.blank start = false →
      (∀ other, read kind start other widths ys modes = read kind start fallback widths ys modes) ∧
      ((∀ p, ¬IsPoint start p) → ∀ b, read kind start fallback widths ys modes ≠ .ok b)) := by
  refine ⟨fun b => read_eq_ok_iff, ?_, fun e => read_eq_error_iff, ?_⟩
  · simp only [read_eq_ok_iff, exists_describes_iff, Field.exists_isModes_iff,
      Field.exists_isNumbers_iff, Text.blank]
  · intro hblank
    refine ⟨read_of_not_blank hblank, fun hnot b hb => ?_⟩
    -- The start of a bend is the point of the text in force, which is the first one.
    exact hnot b.start ((isStart_iff (inForce?_of_not_blank hblank)).1 (read_eq_ok_iff.1 hb).start)

/-- A start that is no point is the fault, although the second place has one and the modes and the
widths are wrong too. -/
theorem read_six_texts_start :
    Text.blank "1;x" = false ∧ (∀ p, ¬IsPoint "1;x" p) ∧
      (∀ b, read " " "1;x" "-40;0" "1,,2" "" "q" ≠ .ok b) ∧
      read " " "1;x" "-40;0" "1,,2" "" "q" = .error (.invalidNumber "PBStart" "x") := by
  have hblank : Text.blank "1;x" = false := by decide
  have hread : readPoint "1;x" = .error (.invalidNumber "PBStart" "x") := by rfl
  have hnot : ∀ p, ¬IsPoint "1;x" p := by
    intro p hp
    cases hread.symm.trans (readPoint_eq_ok_iff.2 hp)
  -- The other start is right and the widths are wrong, but neither is looked at.
  obtain ⟨-, -, herror, hfirst⟩ := read_six_texts " " "1;x" "-40;0" "1,,2" "" "q"
  refine ⟨hblank, hnot, (hfirst hblank).2 hnot, (herror _).2 ?_⟩
  exact .start (.blank (by decide))
    (.point (inForce?_of_not_blank hblank) (readPoint_eq_error_iff.1 hread))

end VocalScore.PitchBend
