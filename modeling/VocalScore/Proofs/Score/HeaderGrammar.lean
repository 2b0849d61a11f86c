import VocalScore.Proofs.Score.FieldGrammar
import VocalScore.Proofs.Text.Occurrence
import VocalScore.Score.Settings
import VocalScore.Score.Version

/-!
# The grammar of version blocks and settings

Which lines of a version block name a version and which of them counts, which values of its keys the
settings of a score have to have, and what is wrong with a block or with settings that are not read.

## Key results

- `Version.ofBody_eq_ok_iff` / `Version.ofBody_eq_error_iff`: version blocks
- `Settings.ofSection_eq_ok_iff` / `Settings.ofSection_eq_error_iff`: settings
-/

namespace VocalScore

open Traversal

/-! ### Version blocks -/

namespace Version

/-- A line has the words that announce a version. -/
def Mentions (line : String) : Prop := "UST Version".toList <:+: line.toList

/-- The version that a line names, if there is nothing else on it but white space around. -/
inductive Names (line : String) : Version → Prop
  | v1_2 (h : Text.trimmed line = "UST Version1.2") : Names line .v1_2
  | v2_0 (h : Text.trimmed line = "UST Version2.0") : Names line .v2_0

/-- The version of a block. Every line that mentions a version names one, and the last of them
counts; without such a line it is 1.2. -/
inductive IsVersionOf (body : List String) : Version → Prop
  | unmentioned (h : ∀ line ∈ body, ¬Mentions line) : IsVersionOf body .v1_2
  | last {before after : List String} {line : String} {v : Version}
      (hbody : body = before ++ line :: after)
      (hbefore : ∀ l ∈ before, Mentions l → ∃ w, Names l w)
      (hline : Mentions line) (h : Names line v) (hafter : ∀ l ∈ after, ¬Mentions l) :
      IsVersionOf body v

/-- What is wrong with a block: its first line that mentions a version and names none. -/
inductive Faulty (body : List String) : ScoreError → Prop
  | line {before after : List String} {line : String} (hbody : body = before ++ line :: after)
      (hbefore : ∀ l ∈ before, Mentions l → ∃ w, Names l w)
      (hline : Mentions line) (h : ∀ v, ¬Names line v) :
      Faulty body (.invalidVersion (Text.trimmed line))

variable {body : List String}

/-- The reader looks for the words anywhere in a line. -/
theorem mentioned_iff {line : String} : mentioned line = true ↔ Mentions line :=
  Text.occurs_iff_infix

/-- A line is read as the version that it names. -/
theorem read_eq_ok_iff {line : String} {v : Version} : read line = .ok v ↔ Names line v := by
  simp only [read]
  constructor
  · intro h
    split at h
    next h12 => cases h; exact .v1_2 h12
    next =>
      split at h
      next h20 => cases h; exact .v2_0 h20
      next => cases h
  · -- No line names both versions, so the order of the tests does not matter.
    rintro (h | h)
    · rw [if_pos h]
    · rw [h]
      rfl

/-- A line without a version is quoted without the white space around it. -/
theorem read_eq_error_iff {line : String} {e : ScoreError} :
    read line = .error e ↔ (∀ v, ¬Names line v) ∧ e = .invalidVersion (Text.trimmed line) := by
  refine FailsWith.eq_error_iff ?_ fun v => read_eq_ok_iff
  simp only [read]
  split
  · exact .ok _
  · split
    · exact .ok _
    · exact .error rfl

/-- The lines that mention a version are read in order, and the last one replaces all others. -/
theorem ofLines_eq_mapM (v : Version) (body : List String) :
    ofLines v body = ((body.filter mentioned).mapM read).map fun vs => vs.getLast?.getD v := by
  -- The version assumed so far is the one of the last line before the rest.
  induction body generalizing v with
  | nil => rfl
  | cons line rest ih =>
    rw [ofLines]
    by_cases hline : mentioned line = true
    · rw [if_pos hline, List.filter_cons_of_pos hline, mapM_cons]
      cases read line with
      | error e => rfl
      | ok w =>
        show ofLines w rest = _
        rw [ih]
        cases (rest.filter mentioned).mapM read with
        | error e => rfl
        | ok vs =>
          show Except.ok (vs.getLast?.getD w) = Except.ok ((w :: vs).getLast?.getD v)
          rw [List.getLast?_cons, Option.getD_some]
    · rw [if_neg hline, List.filter_cons_of_neg hline, ih]

/-- A block is read as its version. -/
theorem ofBody_eq_ok_iff {v : Version} : ofBody body = .ok v ↔ IsVersionOf body v := by
  rw [ofBody, ofLines_eq_mapM, map_eq_ok_iff]
  constructor
  · rintro ⟨vs, hvs, rfl⟩
    have hread : ∀ l ∈ body, Mentions l → ∃ w, Names l w := by
      intro l hl hmentions
      obtain ⟨w, hw⟩ := exists_mapM_eq_ok_iff.1 ⟨vs, hvs⟩ l
        (List.mem_filter.2 ⟨hl, mentioned_iff.2 hmentions⟩)
      exact ⟨w, read_eq_ok_iff.1 hw⟩
    -- The result is that of the last line that mentions a version.
    rcases getLast?_of_forall₂ (mapM_eq_ok_iff.1 hvs) with ⟨hnone, rfl⟩ | ⟨ls, line, w, hls, hw, h⟩
    · rw [List.filter_eq_nil_iff] at hnone
      exact .unmentioned fun l hl hmentions => hnone l hl (mentioned_iff.2 hmentions)
    · obtain ⟨before, after, hbody, -, hline, hafter⟩ := filter_eq_concat_iff.1 hls
      rw [hw]
      refine .last hbody ?_ (mentioned_iff.1 hline) (read_eq_ok_iff.1 h) ?_
      · intro l hl
        exact hread l (hbody ▸ List.mem_append_left _ hl)
      · intro l hl hmentions
        exact hafter l hl (mentioned_iff.2 hmentions)
  · rintro (hnone | ⟨hbody, hbefore, hline, h, hafter⟩)
    · refine ⟨[], ?_, rfl⟩
      have hfilter : body.filter mentioned = [] := by
        rw [List.filter_eq_nil_iff]
        intro l hl hmentions
        exact hnone l hl (mentioned_iff.1 hmentions)
      rw [hfilter]
      rfl
    · rename_i before after line
      have hread : ∀ l ∈ body.filter mentioned, ∃ w, read l = .ok w := by
        simp only [List.mem_filter, mentioned_iff, read_eq_ok_iff, hbody]
        rintro l ⟨hl, hmentions⟩
        rcases List.mem_append.1 hl with hl | hl
        · exact hbefore l hl hmentions
        · rcases List.mem_cons.1 hl with rfl | hl
          · exact ⟨_, h⟩
          · exact absurd hmentions (hafter l hl)
      obtain ⟨vs, hvs⟩ := exists_mapM_eq_ok_iff.2 hread
      have hlast : body.filter mentioned = before.filter mentioned ++ [line] :=
        filter_eq_concat_iff.2 ⟨before, after, hbody, rfl, mentioned_iff.2 hline,
          fun l hl hmentions => hafter l hl (mentioned_iff.1 hmentions)⟩
      rcases getLast?_of_forall₂ (mapM_eq_ok_iff.1 hvs) with ⟨hnone, -⟩ | ⟨ls, l, w, hls, hw, hlw⟩
      · simp [hlast] at hnone
      · -- The last line that was read is the one that counts.
        obtain ⟨-, hl⟩ := List.append_inj' (hls.symm.trans hlast) rfl
        obtain rfl := List.singleton_inj.1 hl
        obtain rfl := Except.ok.inj (hlw.symm.trans (read_eq_ok_iff.2 h))
        exact ⟨vs, hvs, by rw [hw]; rfl⟩

/-- A block has one version. -/
theorem IsVersionOf.unique {v v' : Version} (h : IsVersionOf body v) (h' : IsVersionOf body v') :
    v = v' :=
  Except.ok.inj ((ofBody_eq_ok_iff.2 h).symm.trans (ofBody_eq_ok_iff.2 h'))

/-- A block is not read exactly if it has a line that mentions a version and names none. -/
theorem ofBody_eq_error_iff {e : ScoreError} : ofBody body = .error e ↔ Faulty body e := by
  rw [ofBody, ofLines_eq_mapM, map_eq_error_iff, mapM_filter_eq_error_iff]
  simp only [mentioned_iff, read_eq_ok_iff, read_eq_error_iff]
  constructor
  · rintro ⟨before, line, after, hbody, hbefore, hline, h, rfl⟩
    exact .line hbody hbefore hline h
  · rintro ⟨hbody, hbefore, hline, h⟩
    exact ⟨_, _, _, hbody, hbefore, hline, h, rfl⟩

end Version

/-! ### Settings -/

namespace Settings

/-- The tempo that a text stands for: a finite number above zero. -/
structure IsTempo (s : String) (x : Float) : Prop where
  read : Number.read s.toList = some x
  finite : x.isFinite = true
  pos : 0.0 < x

/-- The settings that a section describes. The tempo and the choice of bends are required, and all
texts are taken as they stand. -/
structure IsSettingsOf (s : Section) (t : Settings) : Prop where
  tempo : IsTempo (s.value "Tempo") t.tempo
  mode2 : Field.IsFlag (s.value "Mode2") t.mode2
  projectName : t.projectName = s.value "ProjectName"
  project : t.project = s.value "Project"
  voiceDir : t.voiceDir = s.value "VoiceDir"
  outFile : t.outFile = s.value "OutFile"
  cacheDir : t.cacheDir = s.value "CacheDir"
  tool1 : t.tool1 = s.value "Tool1"
  tool2 : t.tool2 = s.value "Tool2"

/-- What is wrong with settings: the tempo is missing or no tempo, or else the choice of bends is
missing or no choice. -/
inductive Faulty (s : Section) : ScoreError → Prop
  | noTempo (h : s.value "Tempo" = "") : Faulty s .missingTempo
  | tempo (hgiven : s.value "Tempo" ≠ "") (h : ∀ x, ¬IsTempo (s.value "Tempo") x) :
      Faulty s (.invalidNumber "Tempo" (s.value "Tempo"))
  | noMode2 {x : Float} (htempo : IsTempo (s.value "Tempo") x) (h : s.value "Mode2" = "") :
      Faulty s (.missingField s.name "Mode2")
  | mode2 {x : Float} (htempo : IsTempo (s.value "Tempo") x) (hgiven : s.value "Mode2" ≠ "")
      (h : ∀ b, ¬Field.IsFlag (s.value "Mode2") b) :
      Faulty s (.invalidFlag "Mode2" (s.value "Mode2"))

variable {s : Section}

/-- An empty text is no number. -/
theorem IsTempo.ne_empty {raw : String} {x : Float} (h : IsTempo raw x) : raw ≠ "" := by
  rintro rfl
  cases h.read

/-- A text is read as the tempo that it stands for. -/
theorem readTempo_eq_ok_iff {raw : String} {x : Float} :
    readTempo raw = .ok x ↔ IsTempo raw x := by
  rw [readTempo]
  constructor
  · intro h
    split at h
    · cases h
    next =>
      split at h
      next t hread =>
        split at h
        next htempo =>
          cases h
          rw [Bool.and_eq_true, decide_eq_true_iff] at htempo
          exact ⟨hread, htempo.1, htempo.2⟩
        next => cases h
      next => cases h
  · -- Finite and above zero are both asked of a tempo that is given.
    intro h
    rw [if_neg h.ne_empty, h.read]
    simp only [h.finite, decide_eq_true h.pos, Bool.and_self, if_true]

/-- A text that is no tempo is missing, or else quoted. -/
theorem readTempo_eq_error_iff {raw : String} {e : ScoreError} :
    readTempo raw = .error e ↔
      raw = "" ∧ e = .missingTempo ∨
      raw ≠ "" ∧ (∀ x, ¬IsTempo raw x) ∧ e = .invalidNumber "Tempo" raw := by
  by_cases hempty : raw = ""
  · rw [readTempo, if_pos hempty]
    simp [hempty, eq_comm]
  · -- Not a number, not finite and not above zero are all one error.
    have hfails : FailsWith (· = .invalidNumber "Tempo" raw) (readTempo raw) := by
      rw [readTempo, if_neg hempty]
      split
      · split
        · exact .ok _
        · exact .error rfl
      · exact .error rfl
    rw [FailsWith.eq_error_iff hfails fun x => readTempo_eq_ok_iff]
    simp [hempty]

/-- The choice of bends is read from the word for it. -/
theorem readMode2_eq_ok_iff {b : Bool} :
    readMode2 s = .ok b ↔ Field.IsFlag (s.value "Mode2") b := by
  rw [readMode2]
  split
  next hempty =>
    rw [hempty]
    exact iff_of_false (by rintro ⟨⟩) (Field.not_isFlag_empty b)
  next => exact Field.flag_eq_ok_iff

/-- The choice of bends is missing, or else quoted. -/
theorem readMode2_eq_error_iff {e : ScoreError} :
    readMode2 s = .error e ↔
      s.value "Mode2" = "" ∧ e = .missingField s.name "Mode2" ∨
      s.value "Mode2" ≠ "" ∧ (∀ b, ¬Field.IsFlag (s.value "Mode2") b) ∧
        e = .invalidFlag "Mode2" (s.value "Mode2") := by
  rw [readMode2]
  split
  next hempty => simp [hempty, eq_comm]
  next hgiven => simp [hgiven, Field.flag_eq_error_iff]

/-- The tempo is read before the choice of bends, and neither depends on the other keys. -/
theorem ofSection_eq_bind (s : Section) :
    ofSection s = (readTempo (s.value "Tempo")).bind fun tempo => (readMode2 s).map fun mode2 =>
      { tempo, projectName := s.value "ProjectName", project := s.value "Project",
        voiceDir := s.value "VoiceDir", outFile := s.value "OutFile",
        cacheDir := s.value "CacheDir", tool1 := s.value "Tool1", tool2 := s.value "Tool2",
        mode2 } := by
  rw [ofSection]
  cases readTempo (s.value "Tempo") with
  | error e => rfl
  | ok tempo => cases readMode2 s <;> rfl

/-- The settings of a section are the ones that it describes. -/
theorem ofSection_eq_ok_iff {t : Settings} : ofSection s = .ok t ↔ IsSettingsOf s t := by
  simp only [ofSection_eq_bind, bind_eq_ok_iff, map_eq_ok_iff, readTempo_eq_ok_iff,
    readMode2_eq_ok_iff]
  constructor
  · rintro ⟨tempo, htempo, mode2, hmode2, rfl⟩
    exact ⟨htempo, hmode2, rfl, rfl, rfl, rfl, rfl, rfl, rfl⟩
  · -- The seven texts are taken as they are and cannot fail.
    intro h
    refine ⟨t.tempo, h.tempo, t.mode2, h.mode2, ?_⟩
    simp only [← h.projectName, ← h.project, ← h.voiceDir, ← h.outFile, ← h.cacheDir, ← h.tool1,
      ← h.tool2]

/-- A section describes one set of settings. -/
theorem IsSettingsOf.unique {t t' : Settings} (h : IsSettingsOf s t) (h' : IsSettingsOf s t') :
    t = t' :=
  Except.ok.inj ((ofSection_eq_ok_iff.2 h).symm.trans (ofSection_eq_ok_iff.2 h'))

/-- A section is read as settings unless something is wrong with it. -/
theorem ofSection_eq_error_iff {e : ScoreError} : ofSection s = .error e ↔ Faulty s e := by
  simp only [ofSection_eq_bind, bind_eq_error_iff, map_eq_error_iff, readTempo_eq_error_iff,
    readTempo_eq_ok_iff, readMode2_eq_error_iff]
  constructor
  · -- The tempo is read first, so the flag is looked at only if the tempo is right.
    rintro ((⟨h, rfl⟩ | ⟨hgiven, h, rfl⟩) | ⟨x, hx, ⟨h, rfl⟩ | ⟨hgiven, h, rfl⟩⟩)
    · exact .noTempo h
    · exact .tempo hgiven h
    · exact .noMode2 hx h
    · exact .mode2 hx hgiven h
  · rintro (h | ⟨hgiven, h⟩ | ⟨htempo, h⟩ | ⟨htempo, hgiven, h⟩)
    · exact Or.inl (Or.inl ⟨h, rfl⟩)
    · exact Or.inl (Or.inr ⟨hgiven, h, rfl⟩)
    · exact Or.inr ⟨_, htempo, Or.inl ⟨h, rfl⟩⟩
    · exact Or.inr ⟨_, htempo, Or.inr ⟨hgiven, h, rfl⟩⟩

end Settings

end VocalScore
