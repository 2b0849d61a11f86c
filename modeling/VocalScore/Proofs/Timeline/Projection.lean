import Mathlib.Algebra.GroupWithZero.Nat
import VocalScore.Proofs.Traversal
import VocalScore.Timeline.Basic

/-!
# Where a timeline places the notes of a score

A timeline walks through the notes of a score with a position in ticks. A rest moves the position
on and leaves nothing behind, so that the position of a note is the exact sum of all lengths
before it, rests included.

## Key results

- `toNat_after`: the position after notes is the sum of their lengths, as long as that fits
- `forall₂_place`: each note that is not a rest is placed once, in its order
- `place_add` / `place_rest`: notes placed later are moved as a whole; a rest drops out alone
- `projects_ofScore`: all of it for a score of up to 2^32 notes
-/

namespace VocalScore

open Traversal

/-! ### Sums of lengths -/

/-- The ticks that notes last, one after another. -/
def Note.totalLength (notes : List Note) : Nat := (notes.map (·.length.toNat)).sum

@[simp] theorem Note.totalLength_cons (n : Note) (notes : List Note) :
    totalLength (n :: notes) = n.length.toNat + totalLength notes := rfl

/-- The lengths of notes before and after add up. -/
@[simp] theorem Note.totalLength_append (s t : List Note) :
    totalLength (s ++ t) = totalLength s + totalLength t := by
  rw [totalLength, List.map_append, List.sum_append_nat, totalLength, totalLength]

/-- A note is at most `2 ^ 32 - 1` ticks long. -/
theorem Note.totalLength_le (notes : List Note) :
    totalLength notes ≤ notes.length * (2 ^ 32 - 1) := by
  induction notes with
  | nil => exact Nat.zero_le _
  | cons n notes ih =>
    have hn := n.length.toNat_lt
    rw [totalLength_cons, List.length_cons, Nat.add_mul]
    omega

/-- Up to 2^32 notes never last as long as a position can count. -/
theorem Note.totalLength_lt {notes : List Note} (h : notes.length ≤ 2 ^ 32) :
    totalLength notes < 2 ^ 64 := by
  have hle := totalLength_le notes
  omega

/-! ### Ticks -/

namespace Tick

theorem add_zero (t : Tick) : t + zero = t := congrArg Tick.mk (UInt64.add_zero t.count)

theorem add_assoc (a b c : Tick) : a + b + c = a + (b + c) :=
  congrArg Tick.mk (UInt64.add_assoc a.count b.count c.count)

/-- A length of 32 bits fits in a tick. -/
theorem toNat_count_ofLength (n : UInt32) : (ofLength n).count.toNat = n.toNat :=
  UInt32.toNat_toUInt64 n

/-- A length is added exactly as long as the sum fits. -/
theorem toNat_add_ofLength {p : Tick} {n : UInt32} (h : p.count.toNat + n.toNat < 2 ^ 64) :
    (p + ofLength n).count.toNat = p.count.toNat + n.toNat := by
  rw [count_add, UInt64.toNat_add, toNat_count_ofLength, Nat.mod_eq_of_lt h]

end Tick

/-- A placed note, moved by a span. -/
def PlacedNote.shift (t : Tick) (p : PlacedNote) : PlacedNote :=
  { p with position := t + p.position }

namespace Timeline

/-! ### The position under way -/

theorem after_cons (p : Tick) (n : Note) (notes : List Note) :
    after p (n :: notes) = after (p + Tick.ofLength n.length) notes := rfl

/-- Notes after others start where these end. -/
theorem after_append (p : Tick) (s t : List Note) : after p (s ++ t) = after (after p s) t :=
  List.foldl_append

/-- Notes that start later end as much later. -/
theorem after_add (t p : Tick) (notes : List Note) : after (t + p) notes = t + after p notes := by
  induction notes generalizing p with
  | nil => rfl
  | cons n notes ih => rw [after_cons, after_cons, Tick.add_assoc, ih]

/-- The position after notes is exact as long as it fits. -/
theorem toNat_after {p : Tick} {notes : List Note}
    (h : p.count.toNat + Note.totalLength notes < 2 ^ 64) :
    (after p notes).count.toNat = p.count.toNat + Note.totalLength notes := by
  induction notes generalizing p with
  | nil => rfl
  | cons n notes ih =>
    rw [Note.totalLength_cons] at h ⊢
    have hadd := Tick.toNat_add_ofLength (p := p) (n := n.length) (by omega)
    rw [after_cons, ih (by omega), hadd, Nat.add_assoc]

/-- Notes from the start end where their lengths add up to, as long as that fits. -/
theorem toNat_after_zero {notes : List Note} (h : Note.totalLength notes < 2 ^ 64) :
    (after .zero notes).count.toNat = Note.totalLength notes := by
  have hzero : Tick.zero.count.toNat = 0 := rfl
  rw [toNat_after (by omega), hzero, Nat.zero_add]

/-! ### Placed notes -/

/-- What a placed note takes from its note and from the notes before it. A tick lasts `60000` ms
divided by the ticks of a minute, of which there are `480` in each beat. -/
structure Places (tempo : Float) (before : List Note) (n : Note) (p : PlacedNote) : Prop where
  position : p.position.count.toNat = Note.totalLength before
  duration : p.duration.count.toNat = n.length.toNat
  lyric : p.lyric = n.lyric
  pitch : p.pitch = n.pitch
  intensity : p.intensity = n.intensity
  preUtterance : p.preUtterance = n.preUtterance
  voiceOverlap : p.voiceOverlap = n.voiceOverlap
  startPoint : p.startPoint = n.startPoint
  envelope : p.envelope = n.envelope.elim []
    (·.toCurve (p.duration.count.toFloat * (60000.0 / (tempo * 480.0))))
  bend : p.bend = n.pitchBend.elim [] (·.toCurve (60000.0 / (tempo * 480.0)))

/-- A note is placed where the ones before it end. -/
theorem places_placeAt (tempo : Float) {before : List Note} (n : Note)
    (h : Note.totalLength before < 2 ^ 64) :
    Places tempo before n (n.placeAt (after .zero before) tempo) where
  position := toNat_after_zero h
  duration := Tick.toNat_count_ofLength n.length
  lyric := rfl
  pitch := rfl
  intensity := rfl
  preUtterance := rfl
  voiceOverlap := rfl
  startPoint := rfl
  envelope := by cases he : n.envelope <;> simp only [Note.placeAt, he] <;> rfl
  bend := by cases hb : n.pitchBend <;> simp only [Note.placeAt, hb] <;> rfl

/-- A rest is not placed, but takes its time. -/
theorem place_cons_of_isRest (tempo : Float) (p : Tick) {n : Note} (h : n.isRest = true)
    (notes : List Note) :
    place tempo p (n :: notes) = place tempo (p + Tick.ofLength n.length) notes := by
  rw [place, if_pos h]

theorem place_cons (tempo : Float) (p : Tick) {n : Note} (h : n.isRest = false)
    (notes : List Note) :
    place tempo p (n :: notes) =
      n.placeAt p tempo :: place tempo (p + Tick.ofLength n.length) notes := by
  rw [place, h, if_neg Bool.false_ne_true]

/-- The notes after some others are placed one by one, rests left out. -/
theorem forall₂_place (tempo : Float) (before notes : List Note)
    (h : Note.totalLength (before ++ notes) < 2 ^ 64) :
    List.Forall₂ (fun q p => Places tempo ((before ++ notes).take q.2) q.1 p)
      (kept Note.isRest before.length notes) (place tempo (after .zero before) notes) := by
  -- Each note goes over to the notes before, which the position under way sums up.
  induction notes generalizing before with
  | nil => exact .nil
  | cons n notes ih =>
    have hlater := ih (before ++ [n]) (by rwa [List.append_assoc])
    have hafter : after .zero (before ++ [n]) = after .zero before + Tick.ofLength n.length :=
      after_append .zero before [n]
    rw [List.append_assoc, List.length_append, List.length_singleton, hafter] at hlater
    cases hrest : n.isRest with
    | true =>
      rw [kept_cons_of_skips hrest, place_cons_of_isRest tempo _ hrest]
      exact hlater
    | false =>
      rw [kept_cons hrest, place_cons tempo _ hrest]
      refine .cons ?_ hlater
      rw [Note.totalLength_append] at h
      simp only [List.take_left]
      exact places_placeAt tempo n (by omega)

/-- All notes but rests are placed. -/
theorem length_place (tempo : Float) (p : Tick) (notes : List Note) :
    (place tempo p notes).length = notes.countP (!·.isRest) := by
  induction notes generalizing p with
  | nil => rfl
  | cons n notes ih =>
    cases hrest : n.isRest with
    | true =>
      rw [place_cons_of_isRest tempo p hrest, ih, List.countP_cons_of_neg (by simp [hrest])]
    | false =>
      rw [place_cons tempo p hrest, List.length_cons, ih,
        List.countP_cons_of_pos (by simp [hrest])]

/-- No note is placed before the position that its notes start at. -/
theorem le_position_of_mem_place {tempo : Float} {p : Tick} {notes : List Note} {q : PlacedNote}
    (h : p.count.toNat + Note.totalLength notes < 2 ^ 64) (hq : q ∈ place tempo p notes) :
    p.count.toNat ≤ q.position.count.toNat := by
  induction notes generalizing p with
  | nil => exact absurd hq List.not_mem_nil
  | cons n notes ih =>
    rw [Note.totalLength_cons] at h
    have hadd := Tick.toNat_add_ofLength (p := p) (n := n.length) (by omega)
    -- The first note does not wrap, so later notes are not placed before it.
    have hlater (hq : q ∈ place tempo (p + Tick.ofLength n.length) notes) :
        p.count.toNat ≤ q.position.count.toNat := by
      have hle := ih (by omega) hq
      omega
    cases hrest : n.isRest with
    | true =>
      rw [place_cons_of_isRest tempo p hrest] at hq
      exact hlater hq
    | false =>
      rw [place_cons tempo p hrest] at hq
      rcases List.mem_cons.1 hq with rfl | hq
      · exact Nat.le_refl _
      · exact hlater hq

/-- Placed notes are in the order of their positions. -/
theorem pairwise_position_place {tempo : Float} {p : Tick} {notes : List Note}
    (h : p.count.toNat + Note.totalLength notes < 2 ^ 64) :
    (place tempo p notes).Pairwise fun q r => q.position.count ≤ r.position.count := by
  induction notes generalizing p with
  | nil => exact .nil
  | cons n notes ih =>
    rw [Note.totalLength_cons] at h
    -- The invariant is that the lengths still to come fit, so the next start does not wrap.
    have hadd := Tick.toNat_add_ofLength (p := p) (n := n.length) (by omega)
    have hlater := ih (p := p + Tick.ofLength n.length) (by omega)
    cases hrest : n.isRest with
    | true => rwa [place_cons_of_isRest tempo p hrest]
    | false =>
      rw [place_cons tempo p hrest]
      refine .cons ?_ hlater
      intro q hq
      have hle := le_position_of_mem_place (by omega) hq
      exact UInt64.le_iff_toNat_le.2 (by show p.count.toNat ≤ _; omega)

/-! ### Notes that are moved or left out -/

/-- Notes that start later are moved as a whole. -/
theorem place_add (tempo : Float) (t p : Tick) (notes : List Note) :
    place tempo (t + p) notes = (place tempo p notes).map (PlacedNote.shift t) := by
  induction notes generalizing p with
  | nil => rfl
  | cons n notes ih =>
    cases hrest : n.isRest with
    | true =>
      rw [place_cons_of_isRest tempo _ hrest, place_cons_of_isRest tempo _ hrest, Tick.add_assoc,
        ih]
    | false =>
      rw [place_cons tempo _ hrest, place_cons tempo _ hrest, Tick.add_assoc, ih, List.map_cons]
      rfl

/-- A note that becomes a rest drops out, and only that note. -/
theorem place_rest (tempo : Float) (p : Tick) (before : List Note) {n r : Note}
    (hr : r.isRest = true) (hlength : r.length = n.length) (notes : List Note) :
    place tempo p (before ++ r :: notes) =
      if n.isRest then place tempo p (before ++ n :: notes)
      else (place tempo p (before ++ n :: notes)).eraseIdx (before.countP (!·.isRest)) := by
  rw [place_append, place_append, place_cons_of_isRest tempo _ hr, hlength]
  cases hn : n.isRest with
  | true => rw [if_pos rfl, place_cons_of_isRest tempo _ hn]
  | false =>
    rw [if_neg Bool.false_ne_true, place_cons tempo _ hn, ← length_place tempo p before,
      List.eraseIdx_append_of_length_le (Nat.le_refl _), Nat.sub_self, List.eraseIdx_cons_zero]

/-! ### Whole scores -/

/-- A score with other notes. -/
def withNotes (s : Score) (notes : List Note) : Score := { s with notes }

/-- A timeline that has each note of a score that is not a rest at its exact place. -/
structure Projects (s : Score) (t : Timeline) : Prop where
  notes : List.Forall₂ (fun q p => Places s.settings.tempo (s.notes.take q.2) q.1 p)
    (kept Note.isRest 0 s.notes) t.notes
  length : t.length.count.toNat = Note.totalLength s.notes
  sorted : t.notes.Pairwise fun p q => p.position.count ≤ q.position.count

/-- The timeline of a score of up to 2^32 notes has one placed note for each note that is not a
rest, in their order, at the exact sum of the lengths before it; positions never decrease. No
length overflows when it is added to the position under way. Notes that come after others are
placed as they are alone, moved by the length of what is before them; and a note that becomes a
rest drops out alone. -/
theorem projects_ofScore (s : Score) (h : s.notes.length ≤ 2 ^ 32) :
    Projects s (ofScore s) ∧
    (∀ before n rest, s.notes = before ++ n :: rest →
      (after .zero before).count.toNat + (Tick.ofLength n.length).count.toNat < 2 ^ 64) ∧
    (∀ before rest, s.notes = before ++ rest →
      (ofScore s).notes = (ofScore (withNotes s before)).notes ++
        (ofScore (withNotes s rest)).notes.map
          (PlacedNote.shift (ofScore (withNotes s before)).length) ∧
      (ofScore s).length =
        (ofScore (withNotes s before)).length + (ofScore (withNotes s rest)).length) ∧
    (∀ before n rest lyric, s.notes = before ++ n :: rest → Note.isRestLyric lyric = true →
      ofScore (withNotes s (before ++ { n with lyric } :: rest)) =
        { ofScore s with
          notes := if n.isRest then (ofScore s).notes
            else (ofScore s).notes.eraseIdx (before.countP (!·.isRest)) }) := by
  have htotal := Note.totalLength_lt h
  have hzero : Tick.zero.count.toNat = 0 := rfl
  refine ⟨⟨?_, toNat_after_zero htotal, pairwise_position_place (by omega)⟩, ?_, ?_, ?_⟩
  · exact forall₂_place s.settings.tempo [] s.notes htotal
  · intro before n rest hs
    rw [hs, Note.totalLength_append, Note.totalLength_cons] at htotal
    rw [toNat_after_zero (by omega), Tick.toNat_count_ofLength]
    omega
  · intro before rest hs
    -- The notes that follow are placed from zero and then shifted, so a start is seen as a sum.
    have hstart (p : Tick) : p = p + .zero := by rw [Tick.add_zero]
    constructor
    · show place s.settings.tempo .zero s.notes = _
      rw [hs, place_append, hstart (after .zero before), place_add]
      rfl
    · show after .zero s.notes = _
      rw [hs, after_append, hstart (after .zero before), after_add]
      rfl
  · intro before n rest lyric hs hlyric
    -- A lyric takes no time.
    have hafter : after .zero (before ++ { n with lyric } :: rest) =
        after .zero (before ++ n :: rest) := by
      rw [after_append, after_append, after_cons, after_cons]
    rw [ofScore, ofScore, withNotes, hs]
    dsimp only
    have hrest : Note.isRest { n with lyric } = true := hlyric
    rw [hafter, place_rest (n := n) s.settings.tempo .zero before hrest rfl rest]

/-- The first of two notes is a rest: the other one stands alone, at its end. -/
theorem projects_rest_note :
    ∃ p, (ofScore ⟨.v1_2, .plain 120, [.plain 480 "R" 60, .plain 240 "a" 62]⟩).notes = [p] ∧
      p.position.count.toNat = 480 ∧ p.duration.count.toNat = 240 ∧ p.lyric = "a" := by
  obtain ⟨⟨hnotes, -, -⟩, -⟩ := projects_ofScore
    ⟨.v1_2, .plain 120, [.plain 480 "R" 60, .plain 240 "a" 62]⟩ (by decide)
  -- The rest is skipped, but the note keeps its number and so its place.
  have hkept : kept Note.isRest 0 [.plain 480 "R" 60, .plain 240 "a" 62] =
      [(.plain 240 "a" 62, 1)] := by
    decide
  rw [hkept] at hnotes
  obtain ⟨p, rest, hp, hrest, hlist⟩ := List.forall₂_cons_left_iff.1 hnotes
  rw [List.forall₂_nil_left_iff.1 hrest] at hlist
  exact ⟨p, hlist, hp.position, hp.duration, hp.lyric⟩

end Timeline

end VocalScore
