import VocalScore.Proofs.Score.Causes
import VocalScore.Proofs.Score.HeaderGrammar
import VocalScore.Proofs.Score.SectionLines
import VocalScore.Score.Basic

/-!
# A score is the fold of its sections

The sections before the end mark are read in file order. The first one that cannot be read is
the error of the score; without such a section, the last version and the last settings count,
and every note is kept.

## Key results

- `addSection_eq_error_iff` / `Draft.Describes.add`: when one section fails, and what it adds to
  a draft that describes the sections before it
- `addSections_eq_error_iff` / `Draft.Describes.addAll`: the same for all sections up to the end
  mark; the first one that cannot be read is the fault
- `ofSections_eq_iff`: sections read as their `Outcome`
- `read_eq_iff_outcome`: what the text of a score reads as
-/

namespace VocalScore

open Traversal

namespace Score

/-! ### What sections mean -/

/-- A section that has a part of a score cannot be read, for a cause. -/
inductive CannotRead (s : Section) (e : ScoreError) : Prop
  | version (hname : s.name = versionName) (h : Version.Faulty s.body e)
  | settings (hname : s.name = settingsName) (h : Settings.Faulty s e)
  | note (hname : isNoteName s.name = true) (h : Note.ofSection s = .error e)

/-- The sections before the end mark. -/
def beforeEnd (sections : List Section) : List Section :=
  sections.takeWhile fun s => s.name ≠ endName

/-- The first of some sections that cannot be read, with its cause. -/
def FirstFault (l : List Section) (s : Section) (e : ScoreError) : Prop :=
  ∃ before after, l = before ++ s :: after ∧ (∀ t ∈ before, ∀ c, ¬CannotRead t c) ∧
    CannotRead s e

/-- The error of a score for a cause in a section: a note is named, once. -/
def reported (s : Section) (e : ScoreError) : ScoreError :=
  if isNoteName s.name then .inNote s.name e else e

/-- A section that has a part of a score. -/
def isPart (s : Section) : Bool :=
  s.name == versionName || s.name == settingsName || isNoteName s.name

/-- The last section of a name. -/
def lastNamed (name : String) (l : List Section) : Option Section :=
  (l.filter (·.name == name)).getLast?

/-- The version of some sections: the one of their last version block, or 1.2 without a block. -/
inductive IsVersionOf (l : List Section) : Version → Prop
  | absent (h : lastNamed versionName l = none) : IsVersionOf l .v1_2
  | block {s : Section} {v : Version} (h : lastNamed versionName l = some s)
      (hv : Version.IsVersionOf s.body v) : IsVersionOf l v

/-- Notes that were read from the note sections of a list, in their order. -/
def AreNotesOf (l : List Section) (notes : List Note) : Prop :=
  List.Forall₂ (fun s n => Note.ofSection s = .ok n) (l.filter (isNoteName ·.name)) notes

/-- The score that sections make, if all of them can be read. -/
structure Makes (l : List Section) (score : Score) : Prop where
  settings : ∃ s, lastNamed settingsName l = some s ∧ Settings.IsSettingsOf s score.settings
  version : IsVersionOf l score.version
  notes : AreNotesOf l score.notes

/-- What a score reads as, given its sections before the end mark. -/
inductive Outcome (l : List Section) : Except ScoreError Score → Prop
  | fault {s : Section} {e : ScoreError} (h : FirstFault l s e) :
      Outcome l (.error (reported s e))
  | unset (hread : ∀ s ∈ l, ∀ e, ¬CannotRead s e) (h : ∀ s ∈ l, s.name ≠ settingsName) :
      Outcome l (.error .missingTempo)
  | score {score : Score} (hread : ∀ s ∈ l, ∀ e, ¬CannotRead s e) (h : Makes l score) :
      Outcome l (.ok score)

/-! ### One section -/

/-- A section that cannot be read fails with a cause that is not wrapped. -/
theorem CannotRead.isCause {s : Section} {e : ScoreError} (h : CannotRead s e) : e.IsCause := by
  cases h with
  | version _ h => cases h; trivial
  | settings _ h => cases h <;> trivial
  | note _ h => exact Note.failsWith_ofSection s e h

/-- The root of a reported error is its cause. -/
theorem root_reported {s : Section} {e : ScoreError} (h : e.IsCause) :
    (reported s e).root = e := by
  rw [reported]
  split
  · exact h.root_eq
  · exact h.root_eq

/-- A section that is no part has none of the names. -/
theorem isPart_eq_false_iff {s : Section} :
    isPart s = false ↔
      (s.name ≠ versionName ∧ s.name ≠ settingsName) ∧ isNoteName s.name = false := by
  rw [isPart, Bool.or_eq_false_iff, Bool.or_eq_false_iff, beq_eq_false_iff_ne,
    beq_eq_false_iff_ne]

/-- A section is one of the three parts, or none. -/
theorem kinds (s : Section) :
    s.name = versionName ∨ s.name = settingsName ∨ isNoteName s.name = true ∨
      isPart s = false := by
  rw [isPart_eq_false_iff, ← Bool.not_eq_true]
  tauto

theorem isNoteName_version {s : Section} (h : s.name = versionName) :
    isNoteName s.name = false := by
  rw [h]
  decide

theorem isNoteName_settings {s : Section} (h : s.name = settingsName) :
    isNoteName s.name = false := by
  rw [h]
  decide

theorem ne_version_of_isNoteName {s : Section} (h : isNoteName s.name = true) :
    s.name ≠ versionName := by
  intro hname
  rw [isNoteName_version hname] at h
  cases h

theorem ne_settings_of_isNoteName {s : Section} (h : isNoteName s.name = true) :
    s.name ≠ settingsName := by
  intro hname
  rw [isNoteName_settings hname] at h
  cases h

theorem ne_end_of_isNoteName {name : String} (h : isNoteName name = true) : name ≠ endName := by
  rintro rfl
  revert h
  decide

/-- A version block sets the version. -/
theorem addSection_version (d : Draft) {s : Section} (h : s.name = versionName) :
    addSection d s = (Version.ofBody s.body).map fun v => { d with version := v } := by
  rw [addSection, if_pos h]

/-- A settings section sets the settings. -/
theorem addSection_settings (d : Draft) {s : Section} (h : s.name = settingsName) :
    addSection d s = (Settings.ofSection s).map fun t => { d with settings := some t } := by
  rw [addSection, if_neg (by rw [h]; decide), if_pos h]

/-- A note comes after the notes before it, and its errors get its name. -/
theorem addSection_note (d : Draft) {s : Section} (h : isNoteName s.name = true) :
    addSection d s = ((Note.ofSection s).mapError (.inNote s.name)).map
      fun n => { d with notes := d.notes ++ [n] } := by
  rw [addSection, if_neg (ne_version_of_isNoteName h), if_neg (ne_settings_of_isNoteName h),
    if_pos h]

/-- A section that is no part changes nothing. -/
theorem addSection_other (d : Draft) {s : Section} (h : isPart s = false) :
    addSection d s = .ok d := by
  obtain ⟨⟨hversion, hsettings⟩, hnote⟩ := isPart_eq_false_iff.1 h
  rw [addSection, if_neg hversion, if_neg hsettings, hnote, if_neg Bool.false_ne_true]

/-- What a section that can be read does to a draft. -/
inductive Adds (d : Draft) (s : Section) : Draft → Prop
  | version {v : Version} (hname : s.name = versionName) (h : Version.IsVersionOf s.body v) :
      Adds d s { d with version := v }
  | settings {t : Settings} (hname : s.name = settingsName) (h : Settings.IsSettingsOf s t) :
      Adds d s { d with settings := some t }
  | note {n : Note} (hname : isNoteName s.name = true) (h : Note.ofSection s = .ok n) :
      Adds d s { d with notes := d.notes ++ [n] }
  | other (h : isPart s = false) : Adds d s d

/-- A section that is added does what its name says. -/
theorem adds_of_addSection {d d' : Draft} {s : Section} (h : addSection d s = .ok d') :
    Adds d s d' := by
  rcases kinds s with hname | hname | hname | hother
  · rw [addSection_version d hname] at h
    obtain ⟨v, hv, rfl⟩ := map_eq_ok_iff.1 h
    exact .version hname (Version.ofBody_eq_ok_iff.1 hv)
  · rw [addSection_settings d hname] at h
    obtain ⟨t, ht, rfl⟩ := map_eq_ok_iff.1 h
    exact .settings hname (Settings.ofSection_eq_ok_iff.1 ht)
  · rw [addSection_note d hname] at h
    obtain ⟨n, hn, rfl⟩ := map_eq_ok_iff.1 h
    exact .note hname (mapError_eq_ok_iff.1 hn)
  · rw [addSection_other d hother] at h
    cases h
    exact .other hother

/-- A section fails exactly if it cannot be read, whatever the draft. -/
theorem addSection_eq_error_iff {d : Draft} {s : Section} {r : ScoreError} :
    addSection d s = .error r ↔ ∃ e, CannotRead s e ∧ r = reported s e := by
  constructor
  · intro h
    rcases kinds s with hname | hname | hname | hother
    · rw [addSection_version d hname, map_eq_error_iff, Version.ofBody_eq_error_iff] at h
      exact ⟨r, .version hname h, by rw [reported, isNoteName_version hname]; rfl⟩
    · rw [addSection_settings d hname, map_eq_error_iff, Settings.ofSection_eq_error_iff] at h
      exact ⟨r, .settings hname h, by rw [reported, isNoteName_settings hname]; rfl⟩
    · rw [addSection_note d hname, map_eq_error_iff] at h
      obtain ⟨e, he, rfl⟩ := mapError_eq_error_iff.1 h
      exact ⟨e, .note hname he, by rw [reported, if_pos hname]⟩
    · rw [addSection_other d hother] at h
      cases h
  · -- Only the error of a note is reported with a name.
    rintro ⟨e, ⟨hname, h⟩ | ⟨hname, h⟩ | ⟨hname, h⟩, rfl⟩
    · rw [addSection_version d hname, Version.ofBody_eq_error_iff.2 h, reported,
        isNoteName_version hname]
      rfl
    · rw [addSection_settings d hname, Settings.ofSection_eq_error_iff.2 h, reported,
        isNoteName_settings hname]
      rfl
    · rw [addSection_note d hname, h, reported, if_pos hname]
      rfl

/-- A section that was added has no fault. -/
theorem not_cannotRead_of_addSection {d d' : Draft} {s : Section} (h : addSection d s = .ok d')
    (e : ScoreError) : ¬CannotRead s e := by
  intro he
  rw [addSection_eq_error_iff.2 ⟨e, he, rfl⟩] at h
  cases h

/-! ### All sections -/

theorem beforeEnd_end {s : Section} (h : s.name = endName) (l : List Section) :
    beforeEnd (s :: l) = [] := by
  rw [beforeEnd, List.takeWhile_cons_of_neg (by simpa using h)]

theorem beforeEnd_cons {s : Section} (h : s.name ≠ endName) (l : List Section) :
    beforeEnd (s :: l) = s :: beforeEnd l := by
  rw [beforeEnd, List.takeWhile_cons_of_pos (by simpa using h), beforeEnd]

theorem lastNamed_concat {name : String} (l : List Section) {s : Section} (h : s.name = name) :
    lastNamed name (l ++ [s]) = some s := by
  rw [lastNamed, List.filter_append, List.filter_cons_of_pos (by simpa using h), List.filter_nil,
    List.getLast?_concat]

theorem lastNamed_concat_of_ne {name : String} (l : List Section) {s : Section}
    (h : s.name ≠ name) : lastNamed name (l ++ [s]) = lastNamed name l := by
  rw [lastNamed, List.filter_append, List.filter_cons_of_neg (by simpa using h), List.filter_nil,
    List.append_nil, lastNamed]

/-- There is no last section of a name exactly if no section has it. -/
theorem lastNamed_eq_none_iff {name : String} {l : List Section} :
    lastNamed name l = none ↔ ∀ s ∈ l, s.name ≠ name := by
  rw [lastNamed, List.getLast?_eq_none_iff, List.filter_eq_nil_iff]
  simp only [beq_iff_eq, ne_eq]

/-- A note section that is put last has the last note. -/
theorem areNotesOf_concat {l : List Section} {notes : List Note} {s : Section} {n : Note}
    (h : AreNotesOf l notes) (hname : isNoteName s.name = true) (hn : Note.ofSection s = .ok n) :
    AreNotesOf (l ++ [s]) (notes ++ [n]) := by
  have hlast : [s].filter (isNoteName ·.name) = [s] := by simp [hname]
  rw [AreNotesOf, List.filter_append, hlast]
  exact List.rel_append h (.cons hn .nil)

theorem areNotesOf_concat_of_not {l : List Section} {notes : List Note} {s : Section}
    (h : AreNotesOf l notes) (hname : isNoteName s.name = false) :
    AreNotesOf (l ++ [s]) notes := by
  have hlast : [s].filter (isNoteName ·.name) = [] := by simp [hname]
  rw [AreNotesOf, List.filter_append, hlast, List.append_nil]
  exact h

/-- Only the last version block counts. -/
theorem IsVersionOf.of_lastNamed {l l' : List Section} {v : Version} (h : IsVersionOf l v)
    (hlast : lastNamed versionName l' = lastNamed versionName l) : IsVersionOf l' v := by
  cases h with
  | absent h => exact .absent (hlast.trans h)
  | block h hv => exact .block (hlast.trans h) hv

/-- A draft that sections, all of which can be read, make. -/
structure Draft.Describes (d : Draft) (l : List Section) : Prop where
  version : IsVersionOf l d.version
  settings : Option.Rel Settings.IsSettingsOf (lastNamed settingsName l) d.settings
  notes : AreNotesOf l d.notes

/-- The first draft is that of no sections. -/
theorem Draft.describes_start : Draft.start.Describes [] := ⟨.absent rfl, .none, .nil⟩

/-- One section keeps a draft true to the sections read so far. -/
theorem Draft.Describes.add {d d' : Draft} {l : List Section} {s : Section}
    (hd : d.Describes l) (h : addSection d s = .ok d') : d'.Describes (l ++ [s]) := by
  rcases adds_of_addSection h with ⟨hname, hv⟩ | ⟨hname, ht⟩ | ⟨hname, hn⟩ | hother
  · -- A version block is now the last one; settings and notes are as before.
    refine ⟨.block (lastNamed_concat l hname) hv, ?_,
      areNotesOf_concat_of_not hd.notes (isNoteName_version hname)⟩
    rw [lastNamed_concat_of_ne l (by rw [hname]; decide)]
    exact hd.settings
  · -- A settings section is now the last one.
    refine ⟨?_, ?_, areNotesOf_concat_of_not hd.notes (isNoteName_settings hname)⟩
    · exact hd.version.of_lastNamed (lastNamed_concat_of_ne l (by rw [hname]; decide))
    · rw [lastNamed_concat l hname]
      exact .some ht
  · -- A note comes after the notes before it.
    refine ⟨?_, ?_, areNotesOf_concat hd.notes hname hn⟩
    · exact hd.version.of_lastNamed (lastNamed_concat_of_ne l (ne_version_of_isNoteName hname))
    · rw [lastNamed_concat_of_ne l (ne_settings_of_isNoteName hname)]
      exact hd.settings
  · obtain ⟨⟨hversion, hsettings⟩, hnote⟩ := isPart_eq_false_iff.1 hother
    refine ⟨?_, ?_, areNotesOf_concat_of_not hd.notes hnote⟩
    · exact hd.version.of_lastNamed (lastNamed_concat_of_ne l hversion)
    · rw [lastNamed_concat_of_ne l hsettings]
      exact hd.settings

/-- The first fault is that of the first section or, if it has none, of the rest. -/
theorem firstFault_cons_iff {s t : Section} {l : List Section} {e : ScoreError} :
    FirstFault (s :: l) t e ↔
      (t = s ∧ CannotRead s e) ∨ ((∀ c, ¬CannotRead s c) ∧ FirstFault l t e) := by
  constructor
  · rintro ⟨before, after, hl, hbefore, ht⟩
    cases before with
    | nil =>
      obtain ⟨rfl, rfl⟩ := List.cons.inj hl
      exact Or.inl ⟨rfl, ht⟩
    -- The first section is one of those that can be read.
    | cons b before =>
      obtain ⟨rfl, rfl⟩ := List.cons.inj hl
      exact Or.inr ⟨hbefore s List.mem_cons_self, before, after, rfl,
        fun u hu => hbefore u (List.mem_cons_of_mem s hu), ht⟩
  · rintro (⟨rfl, ht⟩ | ⟨hs, before, after, rfl, hbefore, ht⟩)
    · exact ⟨[], l, rfl, fun u hu => absurd hu List.not_mem_nil, ht⟩
    · refine ⟨s :: before, after, rfl, ?_, ht⟩
      intro u hu
      rcases List.mem_cons.1 hu with rfl | hu
      · exact hs
      · exact hbefore u hu

/-- Sections are added one after the other. -/
theorem addSections_cons (d : Draft) {s : Section} (h : s.name ≠ endName) (l : List Section) :
    addSections d (s :: l) = (addSection d s).bind (addSections · l) := by
  rw [addSections, if_neg h]

/-- After a section that was added come the others. -/
theorem addSections_of_add {d d' : Draft} {s : Section} (h : s.name ≠ endName)
    (hadd : addSection d s = .ok d') (l : List Section) :
    addSections d (s :: l) = addSections d' l := by
  rw [addSections_cons d h, hadd]
  rfl

/-- Sections fail with what is reported of the first one that cannot be read. -/
theorem addSections_eq_error_iff {d : Draft} {l : List Section} {r : ScoreError} :
    addSections d l = .error r ↔ ∃ s e, FirstFault (beforeEnd l) s e ∧ r = reported s e := by
  have hnone : ¬∃ s e, FirstFault [] s e ∧ r = reported s e := by
    rintro ⟨s, e, ⟨before, after, hl, -⟩, -⟩
    exact absurd hl.symm (List.append_ne_nil_of_right_ne_nil _ (List.cons_ne_nil _ _))
  -- Whether a section fails does not depend on the draft, so the induction is on the sections
  -- for every draft.
  induction l generalizing d with
  | nil => exact iff_of_false (by rintro ⟨⟩) hnone
  | cons s l ih =>
    by_cases hend : s.name = endName
    · rw [addSections_end d hend, beforeEnd_end hend]
      exact iff_of_false (by rintro ⟨⟩) hnone
    · rw [addSections_cons d hend, beforeEnd_cons hend, bind_eq_error_iff]
      simp only [addSection_eq_error_iff, firstFault_cons_iff, ih]
      constructor
      · rintro (⟨e, he, rfl⟩ | ⟨d', hd', t, e, hfault, rfl⟩)
        · exact ⟨s, e, Or.inl ⟨rfl, he⟩, rfl⟩
        · exact ⟨t, e, Or.inr ⟨not_cannotRead_of_addSection hd', hfault⟩, rfl⟩
      · rintro ⟨t, e, ⟨rfl, he⟩ | ⟨hs, hfault⟩, rfl⟩
        · exact Or.inl ⟨e, he, rfl⟩
        · -- A section that can be read is added to any draft.
          cases hadd : addSection d s with
          | error r =>
            obtain ⟨c, hc, -⟩ := addSection_eq_error_iff.1 hadd
            exact absurd hc (hs c)
          | ok d' => exact Or.inr ⟨d', rfl, t, e, hfault, rfl⟩

/-- Sections that are added, up to the end mark, make the draft. -/
theorem Draft.Describes.addAll {d d' : Draft} {l rest : List Section} (hd : d.Describes l)
    (h : addSections d rest = .ok d') : d'.Describes (l ++ beforeEnd rest) := by
  induction rest generalizing d l with
  | nil =>
    cases h
    rwa [beforeEnd, List.takeWhile_nil, List.append_nil]
  | cons s rest ih =>
    -- Each step adds one section to those that the draft describes.
    by_cases hend : s.name = endName
    · rw [addSections_end d hend] at h
      cases h
      rwa [beforeEnd_end hend, List.append_nil]
    · rw [addSections_cons d hend] at h
      obtain ⟨d1, hadd, hrest⟩ := bind_eq_ok_iff.1 h
      rw [beforeEnd_cons hend, ← List.singleton_append, ← List.append_assoc]
      exact ih (hd.add hadd) hrest

/-- Sections without a part of a score, and those after the end mark, change nothing. -/
theorem addSections_filter_isPart (d : Draft) (l : List Section) :
    addSections d ((beforeEnd l).filter isPart) = addSections d l := by
  induction l generalizing d with
  | nil => rfl
  | cons s l ih =>
    by_cases hend : s.name = endName
    · rw [beforeEnd_end hend, addSections_end d hend]
      rfl
    · rw [beforeEnd_cons hend, addSections_cons d hend]
      cases hpart : isPart s with
      | true =>
        -- The filter keeps the section, and the rest agrees on the draft that it makes.
        rw [List.filter_cons_of_pos hpart, addSections_cons d hend]
        exact congrArg _ (funext ih)
      | false =>
        rw [List.filter_cons_of_neg (by simp [hpart]), ih, addSection_other d hpart]
        rfl

/-! ### Whole scores -/

/-- Sections have one version. -/
theorem IsVersionOf.unique {l : List Section} {v v' : Version} (h : IsVersionOf l v)
    (h' : IsVersionOf l v') : v = v' := by
  -- The last version block decides, and there is only one last block.
  cases h with
  | absent h =>
    cases h' with
    | absent _ => rfl
    | block h' _ => rw [h] at h'; cases h'
  | block h hv =>
    cases h' with
    | absent h' => rw [h] at h'; cases h'
    | block h' hv' =>
      obtain rfl := Option.some.inj (h.symm.trans h')
      exact hv.unique hv'

/-- Sections make at most one score. -/
theorem Makes.unique {l : List Section} {score score' : Score} (h : Makes l score)
    (h' : Makes l score') : score = score' := by
  obtain ⟨v, t, ns⟩ := score
  obtain ⟨v', t', ns'⟩ := score'
  obtain ⟨s, hs, ht⟩ := h.settings
  obtain ⟨s', hs', ht'⟩ := h'.settings
  have hversion : v = v' := h.version.unique h'.version
  have hsettings : t = t' := by
    rw [hs] at hs'
    cases hs'
    exact ht.unique ht'
  -- Each section of a note makes one note, so the lists agree item by item.
  have hnotes : ns = ns' :=
    List.right_unique_forall₂' (fun s n n' hn hn' => Except.ok.inj (hn.symm.trans hn'))
      h.notes h'.notes
  rw [hversion, hsettings, hnotes]

/-- Some section cannot be read exactly if there is a first one. -/
theorem exists_firstFault_iff {l : List Section} :
    (∃ s e, FirstFault l s e) ↔ ∃ s ∈ l, ∃ e, CannotRead s e := by
  constructor
  · rintro ⟨s, e, before, after, rfl, -, hs⟩
    exact ⟨s, List.mem_append_right before List.mem_cons_self, e, hs⟩
  · rintro ⟨s, hs, e, he⟩
    induction l with
    | nil => exact absurd hs List.not_mem_nil
    | cons t l ih =>
      -- The first section with a fault is looked for from the front.
      by_cases ht : ∃ c, CannotRead t c
      · obtain ⟨c, hc⟩ := ht
        exact ⟨t, c, firstFault_cons_iff.2 (Or.inl ⟨rfl, hc⟩)⟩
      · rcases List.mem_cons.1 hs with rfl | hs
        · exact absurd ⟨e, he⟩ ht
        · obtain ⟨u, c, hu⟩ := ih hs
          exact ⟨u, c, firstFault_cons_iff.2 (Or.inr ⟨not_exists.1 ht, hu⟩)⟩

/-- Sections that can all be read make a draft. -/
theorem exists_draft {l : List Section} (h : ∀ s ∈ beforeEnd l, ∀ e, ¬CannotRead s e) :
    ∃ d, addSections .start l = .ok d ∧ d.Describes (beforeEnd l) := by
  cases hadd : addSections .start l with
  | error r =>
    obtain ⟨s, e, hfault, -⟩ := addSections_eq_error_iff.1 hadd
    obtain ⟨t, ht, c, hc⟩ := exists_firstFault_iff.1 ⟨s, e, hfault⟩
    exact absurd hc (h t ht c)
  | ok d => exact ⟨d, rfl, Draft.describes_start.addAll hadd⟩

/-- Without settings there is no tempo. -/
theorem ofDraft_of_unset {d : Draft} {l : List Section} (hd : d.Describes l)
    (h : ∀ s ∈ l, s.name ≠ settingsName) : ofDraft d = .error .missingTempo := by
  have hsettings := hd.settings
  rw [lastNamed_eq_none_iff.2 h] at hsettings
  cases hset : d.settings with
  | none => rw [ofDraft, hset]
  | some t =>
    rw [hset] at hsettings
    cases hsettings

/-- With settings a draft is a score. -/
theorem exists_score_of_set {d : Draft} {l : List Section} (hd : d.Describes l) {s : Section}
    (h : lastNamed settingsName l = some s) : ∃ score, ofDraft d = .ok score ∧ Makes l score := by
  have hsettings := hd.settings
  rw [h] at hsettings
  cases hset : d.settings with
  | none =>
    rw [hset] at hsettings
    cases hsettings
  | some t =>
    rw [hset] at hsettings
    cases hsettings with
    | some ht =>
      exact ⟨⟨d.version, t, d.notes⟩, by rw [ofDraft, hset], ⟨s, h, ht⟩, hd.version, hd.notes⟩

/-- Sections read as their outcome. -/
theorem ofSections_eq_iff {l : List Section} {r : Except ScoreError Score} :
    ofSections l = r ↔ Outcome (beforeEnd l) r := by
  constructor
  · rintro rfl
    by_cases hfault : ∃ s e, FirstFault (beforeEnd l) s e
    · obtain ⟨s, e, hs⟩ := hfault
      rw [ofSections, addSections_eq_error_iff.2 ⟨s, e, hs, rfl⟩]
      exact .fault hs
    · -- Every section can be read, so there is a draft, and only the settings can be missing.
      have hread : ∀ s ∈ beforeEnd l, ∀ e, ¬CannotRead s e := by
        intro s hs e he
        exact hfault (exists_firstFault_iff.2 ⟨s, hs, e, he⟩)
      obtain ⟨d, hadd, hd⟩ := exists_draft hread
      rw [ofSections, hadd]
      cases hlast : lastNamed settingsName (beforeEnd l) with
      | none =>
        have hunset := lastNamed_eq_none_iff.1 hlast
        rw [show (Except.ok d).bind ofDraft = ofDraft d from rfl, ofDraft_of_unset hd hunset]
        exact .unset hread hunset
      | some s =>
        obtain ⟨score, hscore, hmakes⟩ := exists_score_of_set hd hlast
        rw [show (Except.ok d).bind ofDraft = ofDraft d from rfl, hscore]
        exact .score hread hmakes
  · intro h
    cases h with
    | fault hs =>
      rw [ofSections, addSections_eq_error_iff.2 ⟨_, _, hs, rfl⟩]
      rfl
    | unset hread hunset =>
      obtain ⟨d, hadd, hd⟩ := exists_draft hread
      rw [ofSections, hadd]
      exact ofDraft_of_unset hd hunset
    | score hread hmakes =>
      -- The draft makes a score, and sections make at most one.
      obtain ⟨d, hadd, hd⟩ := exists_draft hread
      obtain ⟨s, hlast, -⟩ := hmakes.settings
      obtain ⟨score, hscore, hmakes'⟩ := exists_score_of_set hd hlast
      rw [ofSections, hadd, hmakes.unique hmakes']
      exact hscore

/-- Sections after the end mark and sections without a part of a score have no influence. -/
theorem ofSections_filter_isPart (l : List Section) :
    ofSections ((beforeEnd l).filter isPart) = ofSections l := by
  rw [ofSections, addSections_filter_isPart, ofSections]

/-! ### Texts of scores -/

theorem isPart_of_headName {s : Section} (h : s.name = Section.headName) : isPart s = false := by
  rw [isPart, h]
  decide

theorem read_eq_ofSections {text : String} {sections : List Section}
    (h : Section.read [versionName] text = .ok sections) : read text = ofSections sections := by
  rw [read, h]
  rfl

/-- A text with sections reads as the outcome of the sections before the end mark: what is
reported of the first section that cannot be read, an error if no settings are there, or else the
score that the sections make. A cause is wrapped for a note only, once; a block without a version
line is of version 1.2; and neither sections without a part of a score nor the leading section
have any influence. -/
theorem read_eq_iff_outcome {text : String} {sections : List Section}
    (h : Section.read [versionName] text = .ok sections) :
    (∀ r, read text = r ↔ Outcome (beforeEnd sections) r) ∧
    ((∃ s ∈ beforeEnd sections, ∃ e, CannotRead s e) →
      ∃ s e, FirstFault (beforeEnd sections) s e) ∧
    (∀ s e, FirstFault (beforeEnd sections) s e →
      (reported s e).root = e ∧ ∀ n c, e ≠ .inNote n c) ∧
    (∀ s, lastNamed versionName (beforeEnd sections) = some s →
      (∀ line ∈ s.body, ¬Version.Mentions line) →
      ∀ v, IsVersionOf (beforeEnd sections) v ↔ v = .v1_2) ∧
    (∀ text' sections', Section.read [versionName] text' = .ok sections' →
      (beforeEnd sections').filter isPart = (beforeEnd sections).filter isPart →
      read text' = read text) ∧
    (∃ s rest, sections = s :: rest ∧ s.name = Section.headName ∧
      read text = ofSections rest) := by
  refine ⟨fun r => ?_, exists_firstFault_iff.2, ?_, ?_, ?_, ?_⟩
  · rw [read_eq_ofSections h]
    exact ofSections_eq_iff
  · rintro s e ⟨-, -, -, -, hs⟩
    exact ⟨root_reported hs.isCause, hs.isCause.ne_inNote⟩
  · intro s hs hlines v
    have hblock : IsVersionOf (beforeEnd sections) .v1_2 := .block hs (.unmentioned hlines)
    constructor
    · intro hv
      exact hv.unique hblock
    · rintro rfl
      exact hblock
  · intro text' sections' h' hparts
    rw [read_eq_ofSections h, read_eq_ofSections h', ← ofSections_filter_isPart, hparts,
      ofSections_filter_isPart]
  · -- What stands before the first header makes a section of its own, which is no part.
    obtain ⟨s, rest, rfl, hname⟩ := Section.read_eq_cons h
    have hend : s.name ≠ endName := by
      rw [hname]
      decide
    refine ⟨s, rest, rfl, hname, ?_⟩
    rw [read_eq_ofSections h, ofSections, addSections_cons _ hend,
      addSection_other _ (isPart_of_headName hname)]
    rfl

/-- A note that cannot be read is the error of its score, under its name, if the version block
before it can be read: of its two version lines the last counts. Where the second one names no
known version, it is the error, and the note is not looked at. -/
theorem read_eq_error_inNote :
    (∃ sections,
      Section.read [versionName]
          "[#VERSION]\nUST Version1.2\n UST Version2.0\n[#0000]\nLength=x\n" = .ok sections ∧
      IsVersionOf (beforeEnd sections) .v2_0 ∧
      read "[#VERSION]\nUST Version1.2\n UST Version2.0\n[#0000]\nLength=x\n" =
        .error (.inNote "#0000" (.invalidNumber "Length" "x"))) ∧
    ∃ sections,
      Section.read [versionName] "[#VERSION]\nUST Version1.2\n UST Version9.9\n[#0000]\n" =
        .ok sections ∧
      read "[#VERSION]\nUST Version1.2\n UST Version9.9\n[#0000]\n" =
        .error (.invalidVersion "UST Version9.9") := by
  have hfirst : ∀ l ∈ ["UST Version1.2"], Version.Mentions l → ∃ w, Version.Names l w := by
    intro l hl _
    rw [List.mem_singleton.1 hl]
    exact ⟨.v1_2, .v1_2 (by decide)⟩
  constructor
  · have h : Section.read [versionName]
        "[#VERSION]\nUST Version1.2\n UST Version2.0\n[#0000]\nLength=x\n" = .ok
        [⟨"DEFAULT", 0, [], []⟩, ⟨"#VERSION", 1, [], ["UST Version1.2", " UST Version2.0"]⟩,
          ⟨"#0000", 4, [("Length", "x")], []⟩] := by
      decide
    have hbody : ["UST Version1.2", " UST Version2.0"] =
        ["UST Version1.2"] ++ " UST Version2.0" :: [] := rfl
    -- The second line takes over from the first one.
    have hversion : Version.IsVersionOf ["UST Version1.2", " UST Version2.0"] .v2_0 :=
      .last hbody hfirst (Version.mentioned_iff.1 (by decide)) (.v2_0 (by decide)) (by simp)
    have hreported : reported ⟨"#0000", 4, [("Length", "x")], []⟩ (.invalidNumber "Length" "x") =
        .inNote "#0000" (.invalidNumber "Length" "x") :=
      if_pos (by decide)
    refine ⟨_, h, .block (s := ⟨"#VERSION", 1, [], _⟩) (by decide) hversion,
      ((read_eq_iff_outcome h).1 _).2 ?_⟩
    rw [← hreported]
    refine .fault ⟨[⟨"DEFAULT", 0, [], []⟩,
      ⟨"#VERSION", 1, [], ["UST Version1.2", " UST Version2.0"]⟩], [], by decide, ?_,
      .note (by decide) rfl⟩
    -- The two sections before the note can be read.
    intro t ht
    rcases List.mem_cons.1 ht with rfl | ht
    · exact not_cannotRead_of_addSection (d := .start) (addSection_other _ (by decide))
    · rw [List.mem_singleton.1 ht]
      exact not_cannotRead_of_addSection (d := .start) (addSection_version _ rfl)
  · have h : Section.read [versionName]
        "[#VERSION]\nUST Version1.2\n UST Version9.9\n[#0000]\n" = .ok
        [⟨"DEFAULT", 0, [], []⟩, ⟨"#VERSION", 1, [], ["UST Version1.2", " UST Version9.9"]⟩,
          ⟨"#0000", 4, [], []⟩] := by
      decide
    have hbody : ["UST Version1.2", " UST Version9.9"] =
        ["UST Version1.2"] ++ " UST Version9.9" :: [] := rfl
    -- The first line is a version, so the second one is the first fault.
    have hfaulty : Version.Faulty ["UST Version1.2", " UST Version9.9"]
        (.invalidVersion "UST Version9.9") := by
      have htrim : Text.trimmed " UST Version9.9" = "UST Version9.9" := by decide
      rw [← htrim]
      refine .line hbody hfirst (Version.mentioned_iff.1 (by decide)) fun v hv => ?_
      rcases hv with h | h <;> revert h <;> decide
    have hreported : reported ⟨"#VERSION", 1, [], ["UST Version1.2", " UST Version9.9"]⟩
        (.invalidVersion "UST Version9.9") = .invalidVersion "UST Version9.9" :=
      if_neg (by decide)
    refine ⟨_, h, ((read_eq_iff_outcome h).1 _).2 ?_⟩
    rw [← hreported]
    refine .fault ⟨[⟨"DEFAULT", 0, [], []⟩], [⟨"#0000", 4, [], []⟩], by decide, ?_,
      .version rfl hfaulty⟩
    intro t ht
    rw [List.mem_singleton.1 ht]
    exact not_cannotRead_of_addSection (d := .start) (addSection_other _ (by decide))

end Score

end VocalScore
