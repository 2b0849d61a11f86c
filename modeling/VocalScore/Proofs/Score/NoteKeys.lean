import VocalScore.Proofs.Score.NoteGrammar
import VocalScore.Proofs.Score.SectionKeys
import VocalScore.Score.Basic

/-!
# What the lines of a note section mean

A note has sixteen keys. Of the lines of one key only the last counts, in whatever order the keys
come, and lines of other keys do not count at all. A key with an empty value is as good as a key
that is missing, except for the lyric and for the two keys that give a note a bend. Without these
two the other keys of a bend do not count.

## Key results

- `Note.Alike.ofSection_eq`: what the reader of a note looks at
- `Note.ofLines_last_written`: which note the lines describe, the lines that may be moved, added or
  removed, and when a note has a bend
-/

namespace VocalScore

/-! ### What the reader of a note looks at -/

namespace Note

open VocalScore.Section (key? entry? linesOf HasKey lastValue? textLines headerName?)

/-- The keys of a bend. -/
def bendKeys : List String := ["PBType", "PBStart", "PBS", "PBW", "PBY", "PBM"]

/-- The keys of a note other than those of its bend. -/
def plainKeys : List String :=
  ["Length", "NoteNum", "Lyric", "Intensity", "Envelope", "Velocity", "Modulation", "PreUtterance",
    "VoiceOverlap", "StartPoint"]

/-- The keys that the reader of a note looks at. -/
def knownKeys : List String := plainKeys ++ bendKeys

/-- A section gives its note a bend. -/
def hasBend (s : Section) : Bool := s.has "PBS" || s.has "PBStart"

/-- Two sections do not differ for the reader of a note: they have the same values, where a key
that is missing has the empty value, and the same lyric; the values of a bend only matter if there
is one. -/
structure Alike (s t : Section) : Prop where
  name : s.name = t.name
  lyric : s.get? "Lyric" = t.get? "Lyric"
  value : ∀ key ∈ plainKeys, s.value key = t.value key
  bend : hasBend s = hasBend t
  bendValue : hasBend s = true → ∀ key ∈ bendKeys, s.value key = t.value key

variable {s t : Section} {key : String}

namespace Alike

/-- Sections that are alike have the same required numbers. -/
theorem requiredNat_eq (h : Alike s t) (hkey : key ∈ plainKeys) (bound : Nat) :
    requiredNat s key bound = requiredNat t key bound := by
  rw [requiredNat, requiredNat, required_eq, required_eq, h.value key hkey, h.name]

/-- Sections that are alike have the same values that may be empty. -/
theorem readUnless_eq {α : Type} (h : Alike s t) (hkey : key ∈ plainKeys)
    (f : String → Except ScoreError α) : readUnless s key f = readUnless t key f := by
  rw [readUnless, readUnless, h.value key hkey]

/-- Sections that are alike have the same optional numbers. -/
theorem optional_eq (h : Alike s t) (hkey : key ∈ plainKeys) : optional s key = optional t key := by
  rw [optional, optional, h.value key hkey]

/-- Sections that are alike have the same bend. -/
theorem readBend_eq (h : Alike s t) : readBend s = readBend t := by
  show (if hasBend s then _ else _) = if hasBend t then _ else _
  rw [← h.bend]
  split
  next hbend =>
    -- The six texts of a bend are asked for only if there is one.
    have hvalue := h.bendValue hbend
    simp only [bendKeys, List.forall_mem_cons] at hvalue
    obtain ⟨hkind, hstart, hfallback, hwidths, hys, hmodes, -⟩ := hvalue
    rw [hkind, hstart, hfallback, hwidths, hys, hmodes]
  · rfl

/-- Sections that are alike are read as the same note, or fail with the same error. -/
theorem ofSection_eq (h : Alike s t) : ofSection s = ofSection t := by
  rw [ofSection, ofSection, h.requiredNat_eq (by decide), h.requiredNat_eq (by decide), h.lyric,
    h.name, h.readUnless_eq (by decide), h.readUnless_eq (by decide), h.readBend_eq,
    h.optional_eq (by decide), h.optional_eq (by decide), h.optional_eq (by decide),
    h.optional_eq (by decide), h.optional_eq (by decide)]

/-- Whether a section has a bend is a matter of two keys. -/
theorem hasBend_eq (hPBS : s.get? "PBS" = t.get? "PBS")
    (hPBStart : s.get? "PBStart" = t.get? "PBStart") : hasBend s = hasBend t := by
  simp only [hasBend, Section.has_eq_isSome_get?, hPBS, hPBStart]

/-- Sections with the same keys of a note are alike. -/
theorem of_get? (hname : s.name = t.name) (h : ∀ key ∈ knownKeys, s.get? key = t.get? key) :
    Alike s t where
  name := hname
  lyric := h _ (by decide)
  value key hkey := congrArg (·.getD "") (h key (List.mem_append_left _ hkey))
  bend := hasBend_eq (h _ (by decide)) (h _ (by decide))
  bendValue _ key hkey := congrArg (·.getD "") (h key (List.mem_append_right _ hkey))

/-- Without a bend, its other keys do not matter. -/
theorem of_not_hasBend (hname : s.name = t.name)
    (h : ∀ key ∈ plainKeys, s.get? key = t.get? key) (hs : hasBend s = false)
    (ht : hasBend t = false) : Alike s t where
  name := hname
  lyric := h _ (by decide)
  value key hkey := congrArg (·.getD "") (h key hkey)
  bend := hs.trans ht.symm
  bendValue hbend := by rw [hs] at hbend; cases hbend

/-- A key with the empty value might as well be missing, if it is not that of the lyric and does
not give the note a bend. -/
theorem of_empty (hname : s.name = t.name) (h : ∀ k, k ≠ key → s.get? k = t.get? k)
    (hs : s.get? key = some "") (ht : t.get? key = none) (hlyric : key ≠ "Lyric")
    (hbend : hasBend s = hasBend t) : Alike s t := by
  have hvalue : ∀ k, s.value k = t.value k := by
    intro k
    by_cases hk : k = key
    · rw [hk, Section.value, Section.value, hs, ht]
      rfl
    · exact congrArg (·.getD "") (h k hk)
  exact ⟨hname, h _ hlyric.symm, fun k _ => hvalue k, hbend, fun _ k _ => hvalue k⟩

end Alike

/-! ### Notes by the lines of their sections -/

/-- The note of a section with a name that starts on line `n`, by the lines under its header. -/
def ofLines (name : String) (n : Nat) (body : List (List Char)) : Except ScoreError Note :=
  ofSection (Section.ofLines [] name n body)

variable {name : String} {n : Nat} {body body' before after : List (List Char)} {line : List Char}

/-- Lines have a bend if one of them has one of these keys. -/
theorem hasBend_ofLines :
    hasBend (Section.ofLines [] name n body) = true ↔
      HasKey "PBS" body ∨ HasKey "PBStart" body := by
  rw [hasBend, Bool.or_eq_true, Section.has_eq_isSome_get?, Section.has_eq_isSome_get?,
    Section.get?_ofLines_eq, Section.get?_ofLines_eq, Section.isSome_lastValue?_iff,
    Section.isSome_lastValue?_iff]

/-- Lines with the same last values of the keys of a note make the same note. -/
theorem ofLines_congr (h : ∀ key ∈ knownKeys, lastValue? key body = lastValue? key body') :
    ofLines name n body = ofLines name n body' := by
  have halike : Alike (Section.ofLines [] name n body) (Section.ofLines [] name n body') := by
    refine .of_get? rfl fun key hkey => ?_
    rw [Section.get?_ofLines_eq, Section.get?_ofLines_eq, h key hkey]
  exact halike.ofSection_eq

/-- A line of one of the two keys that give a note a bend makes no difference if the other is
there. -/
theorem hasKey_start_iff (hPBS : key? line = some "PBS" → HasKey "PBStart" (before ++ after))
    (hPBStart : key? line = some "PBStart" → HasKey "PBS" (before ++ after)) :
    HasKey "PBS" (before ++ line :: after) ∨ HasKey "PBStart" (before ++ line :: after) ↔
      HasKey "PBS" (before ++ after) ∨ HasKey "PBStart" (before ++ after) := by
  simp only [Section.hasKey_append_cons]
  -- If the line has one of the two keys, the other one is there without it.
  constructor
  · rintro ((h | h) | (h | h))
    · exact Or.inr (hPBS h)
    · exact Or.inl h
    · exact Or.inl (hPBStart h)
    · exact Or.inr h
  · exact Or.imp Or.inr Or.inr

/-- A line with an empty value may be left out. -/
theorem ofLines_of_empty (hline : entry? line = some (key, ""))
    (hkey : ¬HasKey key (before ++ after)) (hlyric : key ≠ "Lyric")
    (hPBS : key = "PBS" → HasKey "PBStart" (before ++ after))
    (hPBStart : key = "PBStart" → HasKey "PBS" (before ++ after)) :
    ofLines name n (before ++ line :: after) = ofLines name n (before ++ after) := by
  have hline' : key? line = some key := congrArg (Option.map Prod.fst) hline
  have hother : ∀ k, k ≠ key →
      lastValue? k (before ++ line :: after) = lastValue? k (before ++ after) := by
    intro k hk
    refine Section.lastValue?_append fun hk' => ?_
    exact absurd (Option.some.inj (hk'.symm.trans hline')) hk
  -- An empty line of a bend is harmless only where the bend is there without it.
  have hbend : hasBend (Section.ofLines [] name n (before ++ line :: after)) =
      hasBend (Section.ofLines [] name n (before ++ after)) := by
    rw [Bool.eq_iff_iff, hasBend_ofLines, hasBend_ofLines]
    refine hasKey_start_iff (fun h => hPBS ?_) fun h => hPBStart ?_
    · exact Option.some.inj (hline'.symm.trans h)
    · exact Option.some.inj (hline'.symm.trans h)
  have halike : Alike (Section.ofLines [] name n (before ++ line :: after))
      (Section.ofLines [] name n (before ++ after)) := by
    refine .of_empty rfl (fun k hk => ?_) ?_ ?_ hlyric hbend
    · rw [Section.get?_ofLines_eq, Section.get?_ofLines_eq, hother k hk]
    · rw [Section.get?_ofLines_eq, Section.lastValue?_single hline hkey]
    · rw [Section.get?_ofLines_eq, Section.lastValue?_eq_none_iff.2 hkey]
  exact halike.ofSection_eq

/-- Without the two keys that give a note a bend, the other keys of a bend do not count. -/
theorem ofLines_congr_of_not_hasKey
    (h : ∀ key ∈ plainKeys, lastValue? key body = lastValue? key body')
    (hbody : ¬(HasKey "PBS" body ∨ HasKey "PBStart" body))
    (hbody' : ¬(HasKey "PBS" body' ∨ HasKey "PBStart" body')) :
    ofLines name n body = ofLines name n body' := by
  -- Without either key the four other keys of a bend are not read.
  have hbend : ∀ ls, ¬(HasKey "PBS" ls ∨ HasKey "PBStart" ls) →
      hasBend (Section.ofLines [] name n ls) = false := by
    intro ls hls
    rwa [← hasBend_ofLines, Bool.not_eq_true] at hls
  have halike : Alike (Section.ofLines [] name n body) (Section.ofLines [] name n body') := by
    refine .of_not_hasBend rfl (fun key hkey => ?_) (hbend _ hbody) (hbend _ hbody')
    rw [Section.get?_ofLines_eq, Section.get?_ofLines_eq, h key hkey]
  exact halike.ofSection_eq

/-- The last values of the keys describe the note. -/
theorem ofLines_eq_ok_iff {note : Note} :
    ofLines name n body = .ok note ↔ Describes (lastValue? · body) note := by
  have hvalues : (Section.ofLines [] name n body).get? = (lastValue? · body) :=
    funext fun key => Section.get?_ofLines_eq name n key body
  rw [ofLines, ofSection_eq_ok_iff, hvalues]

/-- A note has a bend exactly if one of the two keys that give it one is there, even without a
value. -/
theorem isSome_pitchBend_iff {note : Note} (h : ofLines name n body = .ok note) :
    note.pitchBend.isSome = true ↔ HasKey "PBS" body ∨ HasKey "PBStart" body := by
  rw [(ofLines_eq_ok_iff.1 h).pitchBend.isSome_iff, ← Option.isSome_iff_ne_none,
    ← Option.isSome_iff_ne_none, Section.isSome_lastValue?_iff, Section.isSome_lastValue?_iff]

/-- Whether a line has a key that the reader of a note looks at. -/
def isKnown (line : List Char) : Bool := (key? line).any (knownKeys.contains ·)

/-- Lines whose keys are none of a note do not change the values of those that are. -/
theorem lastValue?_filter_isKnown (hkey : key ∈ knownKeys) (body : List (List Char)) :
    lastValue? key (body.filter isKnown) = lastValue? key body := by
  have hknown : ∀ l, key? l = some key → isKnown l = true := by
    intro l hl
    rw [isKnown, hl]
    exact List.contains_iff_mem.2 hkey
  rw [lastValue?, lastValue?, Section.linesOf_filter hknown]

/-- Key lines under the header of a note make one section, and its note is the one that the last
values of its keys describe; the error too depends on these values only. So lines of different keys
may change places, a line may be left out if its key comes again, and so may lines whose keys are
none of a note; lines with an empty value may be put in for a key that is missing, unless it is that
of the lyric or would give the note a bend. A note has a bend if `PBS` or `PBStart` is there, even
without a value, and the other keys of the bend do not count if neither is. -/
theorem ofLines_last_written (name : String) (n : Nat) (body : List (List Char)) :
    (∀ text header, Score.isNoteName name = true → textLines text = header :: body →
      headerName? header = some name → (∀ l ∈ body, ∃ e, entry? l = some e) →
      Section.read [Score.versionName] text =
        .ok [.empty Section.headName 0, .ofLines [] name 1 body]) ∧
    (∀ note, ofLines name n body = .ok note ↔ Describes (lastValue? · body) note) ∧
    (∀ body', (∀ key ∈ knownKeys, lastValue? key body = lastValue? key body') →
      ofLines name n body = ofLines name n body') ∧
    (∀ body', (∀ key, linesOf key body = linesOf key body') →
      ofLines name n body = ofLines name n body') ∧
    (∀ before line after, body = before ++ line :: after → (∃ l ∈ after, key? l = key? line) →
      ofLines name n body = ofLines name n (before ++ after)) ∧
    (∀ body', body.filter isKnown = body'.filter isKnown →
      ofLines name n body = ofLines name n body') ∧
    (∀ before line after key, body = before ++ line :: after → entry? line = some (key, "") →
      ¬HasKey key (before ++ after) → key ≠ "Lyric" →
      (key = "PBS" → HasKey "PBStart" (before ++ after)) →
      (key = "PBStart" → HasKey "PBS" (before ++ after)) →
      ofLines name n body = ofLines name n (before ++ after)) ∧
    (¬(HasKey "PBS" body ∨ HasKey "PBStart" body) →
      (∀ note, ofLines name n body = .ok note → note.pitchBend = none) ∧
      ∀ body', (∀ key ∈ plainKeys, lastValue? key body = lastValue? key body') →
        ¬(HasKey "PBS" body' ∨ HasKey "PBStart" body') →
        ofLines name n body = ofLines name n body') ∧
    (HasKey "PBS" body ∨ HasKey "PBStart" body →
      ∀ note, ofLines name n body = .ok note → ∃ b, note.pitchBend = some b) := by
  refine ⟨?text, fun note => ofLines_eq_ok_iff, ?values, ?moved, ?again, ?unknown, ?empty, ?unbent,
    ?bent⟩
  case text =>
    intro text header hname htext hheader hbody
    -- The version block keeps its lines raw, and its name is none of a note.
    have hraw : name ∉ [Score.versionName] := by
      rw [List.mem_singleton]
      rintro rfl
      revert hname
      decide
    exact Section.read_of_keyLines hraw htext hheader hbody
  case values => exact fun body' h => ofLines_congr h
  case moved =>
    intro body' h
    refine ofLines_congr fun key _ => ?_
    rw [lastValue?, lastValue?, h key]
  -- A later line with the key takes over.
  case again =>
    rintro before line after rfl ⟨l, hl, hkey⟩
    refine ofLines_congr fun key _ => Section.lastValue?_append fun hline => ?_
    exact ⟨l, hl, hkey.trans hline⟩
  case unknown =>
    intro body' h
    refine ofLines_congr fun key hkey => ?_
    rw [← lastValue?_filter_isKnown hkey body, h, lastValue?_filter_isKnown hkey]
  case empty =>
    rintro before line after key rfl hline hkey hlyric hPBS hPBStart
    exact ofLines_of_empty hline hkey hlyric hPBS hPBStart
  case unbent =>
    intro hbend
    refine ⟨fun note hnote => ?_, fun body' h hbend' => ofLines_congr_of_not_hasKey h hbend hbend'⟩
    rwa [← isSome_pitchBend_iff hnote, Option.not_isSome_iff_eq_none] at hbend
  case bent =>
    intro hbend note hnote
    exact Option.isSome_iff_exists.1 ((isSome_pitchBend_iff hnote).2 hbend)

/-- Lines of a note that name no start of a bend, but a width that is no number, and an empty
velocity. -/
def strayLines : List (List Char) :=
  ["Length=480".toList, "NoteNum=60".toList, "Lyric=a".toList, "PBW=wide".toList,
    "Velocity=".toList]

/-- A line without a value and one of a bend that is not there make no difference. -/
theorem ofLines_last_written_stray :
    (ofLines "#0000" 1 strayLines = ofLines "#0000" 1 (strayLines.take 4) ∧
      ofLines "#0000" 1 (strayLines.take 4) = ofLines "#0000" 1 (strayLines.take 3)) ∧
    ofLines "#0000" 1 strayLines = .ok (plain 480 "a" 60) := by
  obtain ⟨-, -, -, -, -, -, hempty, -⟩ := ofLines_last_written "#0000" 1 strayLines
  obtain ⟨-, -, -, -, -, -, -, hbend, -⟩ := ofLines_last_written "#0000" 1 (strayLines.take 4)
  -- The empty velocity is dropped first, then the width without a bend.
  have hvelocity : ofLines "#0000" 1 strayLines = ofLines "#0000" 1 (strayLines.take 4) :=
    hempty (strayLines.take 4) "Velocity=".toList [] "Velocity" rfl (by decide) (by decide)
      (by decide) (by decide) (by decide)
  have hwidth : ofLines "#0000" 1 (strayLines.take 4) = ofLines "#0000" 1 (strayLines.take 3) :=
    (hbend (by decide)).2 (strayLines.take 3) (by decide) (by decide)
  exact ⟨⟨hvelocity, hwidth⟩, (hvelocity.trans hwidth).trans rfl⟩

end Note

end VocalScore
