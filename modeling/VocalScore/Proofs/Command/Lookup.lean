import VocalScore.Command.Run
import VocalScore.Proofs.Traversal
import VocalScore.Proofs.Voicebank.PrefixText
import VocalScore.Proofs.Voicebank.SampleIndex

/-!
# The samples that a lookup prints

A note that is not a rest asks for a sample by name: its lyric between the texts that the prefix
map has for its pitch, or the lyric alone if the map has none. It finds the first entry of the
table with that name or, if there is none, the first one with the name of its lyric. A lookup prints
a line for every note that finds an entry, in the order of the notes, and nothing else.

## Key results

- `SampleTable.sampleOf_eq_some_iff`: the entry of one note
- `SampleTable.hits_iff`: the entries of all notes of a score
- `SampleTable.Finds.with_map`: a prefix map never hides an entry
- `Command.lookup_prints_hits`: what a lookup prints, by the files that it reads
-/

namespace VocalScore

open Traversal

/-! ### Notes and entries -/

namespace SampleTable

/-- The name that a note asks for. -/
inductive Asks (map : Option PrefixMap) (n : Note) : String → Prop
  | mapped {m : PrefixMap} {a : Affix} (hmap : map = some m) (h : (n.pitch, a) ∈ m.entries) :
      Asks map n (a.before ++ n.lyric ++ a.after)
  | unmapped (h : ∀ m, map = some m → ∀ a, (n.pitch, a) ∉ m.entries) : Asks map n n.lyric

/-- The first entry with a name. -/
structure IsFirstNamed (t : SampleTable) (name : String) (e : SampleEntry) : Prop where
  name_eq : e.aliasName = name
  first : ∃ before after, t.toList = before ++ e :: after ∧ ∀ x ∈ before, x.aliasName ≠ name

/-- The entry that a note finds: that of the name it asks for or, if no entry has that name, that
of its lyric. -/
inductive Finds (t : SampleTable) (map : Option PrefixMap) (n : Note) (e : SampleEntry) : Prop
  | asked {name : String} (hrest : n.lyric ≠ "R" ∧ n.lyric ≠ "-") (hname : Asks map n name)
      (h : t.IsFirstNamed name e)
  | bare {name : String} (hrest : n.lyric ≠ "R" ∧ n.lyric ≠ "-") (hname : Asks map n name)
      (hnone : ∀ x ∈ t.toList, x.aliasName ≠ name) (h : t.IsFirstNamed n.lyric e)

/-- The entries that notes find, in the order of the notes; notes that find none are passed over. -/
inductive Hits (t : SampleTable) (map : Option PrefixMap) : List Note → List SampleEntry → Prop
  | nil : Hits t map [] []
  | hit {n : Note} {ns : List Note} {e : SampleEntry} {es : List SampleEntry}
      (h : Finds t map n e) (hrest : Hits t map ns es) : Hits t map (n :: ns) (e :: es)
  | miss {n : Note} {ns : List Note} {es : List SampleEntry} (h : ∀ e, ¬Finds t map n e)
      (hrest : Hits t map ns es) : Hits t map (n :: ns) es

variable {t : SampleTable} {map : Option PrefixMap} {n : Note} {e : SampleEntry} {name : String}

/-- `get?` finds the first entry with a name. -/
theorem isFirstNamed_iff : t.IsFirstNamed name e ↔ t.get? name = some e := by
  rw [get?_eq_find?, List.find?_eq_some_iff_append]
  simp only [beq_iff_eq, Bool.not_eq_true', beq_eq_false_iff_ne]
  exact ⟨fun h => ⟨h.name_eq, h.first⟩, fun h => ⟨h.1, h.2⟩⟩

/-- The name that a note asks for is that of its pitch and lyric in the prefix map, if there is
one. -/
theorem asks_iff :
    Asks map n name ↔ (map.map (·.aliasFor n.pitch n.lyric)).getD n.lyric = name := by
  cases map with
  | none =>
    constructor
    · rintro (⟨⟨⟩, -⟩ | -)
      rfl
    · rintro rfl
      exact .unmapped fun m hm => nomatch hm
  | some m =>
    show _ ↔ m.aliasFor n.pitch n.lyric = name
    rw [PrefixMap.aliasFor]
    constructor
    · rintro (⟨⟨⟩, h⟩ | h)
      · rw [PrefixMap.mem_entries_iff.1 h]
        rfl
      · -- The map is a list of pairs to `Asks`, but `aliasFor` looks the pitch up.
        have hnone : m.get? n.pitch = none := by
          rw [Option.eq_none_iff_forall_ne_some]
          exact fun a ha => h m rfl a (PrefixMap.mem_entries_iff.2 ha)
        rw [hnone]
    · cases hget : m.get? n.pitch with
      | none =>
        rintro rfl
        refine .unmapped fun m' hm' a ha => ?_
        cases hm'
        rw [PrefixMap.mem_entries_iff.1 ha] at hget
        cases hget
      | some a =>
        rintro rfl
        exact .mapped rfl (PrefixMap.mem_entries_iff.2 hget)

/-- A note is not a rest if its lyric is neither of the two that stand for one. -/
theorem isRest_eq_false_iff : n.isRest = false ↔ n.lyric ≠ "R" ∧ n.lyric ≠ "-" := by
  simp [Note.isRest, Note.isRestLyric]

/-- Looking up the name that a note asks for, then its lyric. -/
theorem lookup_eq (t : SampleTable) (map : Option PrefixMap) (n : Note) :
    t.lookup map n.pitch n.lyric =
      (t.get? ((map.map (·.aliasFor n.pitch n.lyric)).getD n.lyric)).or (t.get? n.lyric) := by
  cases map with
  | none =>
    show (t.get? n.lyric) = (t.get? n.lyric).or (t.get? n.lyric)
    rw [Option.or_self]
  | some m => rfl

/-- The sample of a note is the entry that it finds. -/
theorem sampleOf_eq_some_iff : t.sampleOf map n = some e ↔ Finds t map n e := by
  rw [sampleOf]
  by_cases hrest : n.isRest = true
  · have hnot : ¬(n.lyric ≠ "R" ∧ n.lyric ≠ "-") := by
      rw [← isRest_eq_false_iff, hrest]
      exact nofun
    -- A rest has no sample, and both ways to find one ask for a lyric that is none.
    rw [if_pos hrest]
    refine iff_of_false nofun ?_
    rintro (⟨h, -, -⟩ | ⟨h, -, -, -⟩) <;> exact hnot h
  · have hlyric := isRest_eq_false_iff.1 (Bool.not_eq_true _ ▸ hrest)
    rw [if_neg hrest, lookup_eq, Option.or_eq_some_iff]
    constructor
    · rintro (h | ⟨hnone, h⟩)
      · exact .asked hlyric (asks_iff.2 rfl) (isFirstNamed_iff.2 h)
      · exact .bare hlyric (asks_iff.2 rfl) ((t.get?_eq_none_iff _).1 hnone)
          (isFirstNamed_iff.2 h)
    · rintro (⟨-, hname, h⟩ | ⟨-, hname, hnone, h⟩)
      · rw [asks_iff.1 hname]
        exact Or.inl (isFirstNamed_iff.1 h)
      · rw [asks_iff.1 hname]
        exact Or.inr ⟨(t.get?_eq_none_iff _).2 hnone, isFirstNamed_iff.1 h⟩

/-- A note has no sample exactly if it finds no entry. -/
theorem sampleOf_eq_none_iff : t.sampleOf map n = none ↔ ∀ e, ¬Finds t map n e := by
  simp only [Option.eq_none_iff_forall_ne_some, ne_eq, sampleOf_eq_some_iff]

/-- The samples of notes are the entries that they find. -/
theorem hits_iff {ns : List Note} {es : List SampleEntry} :
    Hits t map ns es ↔ (t.resolve map ns).toList = es := by
  -- A note adds its sample, or nothing, to those of the notes after it.
  rw [toList_resolve]
  induction ns generalizing es with
  | nil =>
    constructor
    · rintro ⟨⟩
      rfl
    · rintro rfl
      exact .nil
  | cons n ns ih =>
    constructor
    · rintro (- | ⟨h, hrest⟩ | ⟨h, hrest⟩)
      · rw [List.filterMap_cons_some (sampleOf_eq_some_iff.2 h), ih.1 hrest]
      · rw [List.filterMap_cons_none (sampleOf_eq_none_iff.2 h), ih.1 hrest]
    · rintro rfl
      cases h : t.sampleOf map n with
      | none =>
        rw [List.filterMap_cons_none h]
        exact .miss (sampleOf_eq_none_iff.1 h) (ih.2 rfl)
      | some e =>
        rw [List.filterMap_cons_some h]
        exact .hit (sampleOf_eq_some_iff.1 h) (ih.2 rfl)

/-- Without a prefix map a note finds the first entry with the name of its lyric. -/
theorem Finds.isFirstNamed (h : Finds t none n e) : t.IsFirstNamed n.lyric e := by
  -- Both ways to find an entry ask for the lyric if there is no map.
  rcases h with ⟨-, hname, h⟩ | ⟨-, -, -, h⟩
  · rwa [← asks_iff.1 hname] at h
  · exact h

/-- A note that finds an entry without a prefix map finds one with it. -/
theorem Finds.with_map (h : Finds t none n e) (m : PrefixMap) : ∃ e', Finds t (some m) n e' := by
  have hlyric : n.lyric ≠ "R" ∧ n.lyric ≠ "-" := by
    rcases h with ⟨hlyric, -, -⟩ | ⟨hlyric, -, -, -⟩ <;> exact hlyric
  -- Either the name that the map gives is found, or the lyric is, as it was without a map.
  have hname : Asks (some m) n (m.aliasFor n.pitch n.lyric) := asks_iff.2 rfl
  cases hget : t.get? (m.aliasFor n.pitch n.lyric) with
  | none => exact ⟨e, .bare hlyric hname ((t.get?_eq_none_iff _).1 hget) h.isFirstNamed⟩
  | some e' => exact ⟨e', .asked hlyric hname (isFirstNamed_iff.2 hget)⟩

end SampleTable

/-! ### Runs -/

namespace Command

open SampleTable (Finds Hits)

variable {files : Reader Id} {config : Config}

/-- What a lookup reads: the table and the score, and the prefix map if a path of one is given. -/
structure Loads (files : Reader Id) (config : Config) (tablePath scorePath : String)
    (mapPath : Option String) (o : SampleTableOptions) (t : SampleTable) (score : Score)
    (map : Option PrefixMap) : Prop where
  options : Config.sampleTableOptions config.samples = .ok o
  table : ∃ bytes, files tablePath = .ok bytes ∧ SampleTable.decode o bytes = .ok t
  score : ∃ bytes options, files scorePath = .ok bytes ∧
    Config.scoreOptions config.scores = .ok options ∧ Score.decode bytes options = .ok score
  map : match mapPath with
    | none => map = none
    | some path => ∃ bytes options m, files path = .ok bytes ∧
        Config.prefixMapOptions config.prefixes = .ok options ∧
        PrefixMap.decode options bytes = .ok m ∧ map = some m

section

variable {ε α β : Type} {x : ExceptT Fault Id α} {f : α → ExceptT Fault Id β}

/-- A sequence of two steps ends well exactly if both do. -/
theorem run_bind_eq_ok_iff {b : β} :
    (x >>= f).run = .ok b ↔ ∃ a, x.run = .ok a ∧ (f a).run = .ok b := by
  have hbind : (x >>= f).run = Except.bind x.run fun a => (f a).run := by
    show ExceptT.bindCont f x.run = _
    cases x.run <;> rfl
  rw [hbind, bind_eq_ok_iff]

theorem run_map_eq_ok_iff {g : α → β} {b : β} :
    (g <$> x).run = .ok b ↔ ∃ a, x.run = .ok a ∧ g a = b := by
  have hmap : (g <$> x).run = Except.map g x.run := by
    show (x >>= fun a => pure (g a)).run = _
    show ExceptT.bindCont _ x.run = _
    cases x.run <;> rfl
  rw [hmap, map_eq_ok_iff]

theorem run_pure_eq_ok_iff {a b : α} : (pure a : ExceptT Fault Id α).run = .ok b ↔ a = b := by
  show (.ok a : Except Fault α) = .ok b ↔ _
  rw [Except.ok.injEq]

/-- A result that may be an error ends well exactly if it is none, whatever the fault would be. -/
theorem run_orFault_eq_ok_iff {fault : ε → Fault} {y : Except ε α} {a : α} :
    (orFault fault y : ExceptT Fault Id α).run = .ok a ↔ y = .ok a := by
  cases y with
  | ok b =>
    show (.ok b : Except Fault α) = .ok a ↔ _
    rw [Except.ok.injEq, Except.ok.injEq]
  | error e => exact iff_of_false nofun nofun

/-- Fetching a file ends well exactly if it can be read. -/
theorem run_fetch_eq_ok_iff {path : String} {bytes : List UInt8} :
    (fetch files path).run = .ok bytes ↔ files path = .ok bytes := by
  show (orFault (.file path) (files path) : ExceptT Fault Id _).run = _ ↔ _
  exact run_orFault_eq_ok_iff

end

/-- Fetching a score ends well exactly if its file can be read, the configuration makes sense, and
the bytes are a score. -/
theorem run_fetchScore_eq_ok_iff {path : String} {score : Score} :
    (fetchScore files config path).run = .ok score ↔
      ∃ bytes options, files path = .ok bytes ∧
        Config.scoreOptions config.scores = .ok options ∧
        Score.decode bytes options = .ok score := by
  simp only [fetchScore, run_bind_eq_ok_iff, run_fetch_eq_ok_iff, run_orFault_eq_ok_iff]
  constructor
  · rintro ⟨bytes, hbytes, options, hoptions, hscore⟩
    exact ⟨bytes, options, hbytes, hoptions, hscore⟩
  · rintro ⟨bytes, options, hbytes, hoptions, hscore⟩
    exact ⟨bytes, hbytes, options, hoptions, hscore⟩

/-- A lookup succeeds exactly if everything that it reads can be read. -/
theorem run_lookup_eq_ok_iff {tablePath scorePath : String} {mapPath : Option String}
    {out : List UInt8} :
    (perform files config (.lookup tablePath scorePath mapPath)).run = .ok out ↔
      ∃ o t score map, Loads files config tablePath scorePath mapPath o t score map ∧
        out = (t.resolve map score.notes).encode o := by
  simp only [perform, run_bind_eq_ok_iff, run_fetch_eq_ok_iff, run_orFault_eq_ok_iff,
    run_fetchScore_eq_ok_iff]
  cases mapPath with
  -- Without a path the map is `none`, and no third file is read.
  | none =>
    simp only [run_bind_eq_ok_iff, run_pure_eq_ok_iff]
    constructor
    · rintro ⟨o, ho, bytes, hbytes, t, ht, score, hscore, map, hmap, hout⟩
      exact ⟨o, t, score, map, ⟨ho, ⟨bytes, hbytes, ht⟩, hscore, hmap.symm⟩, hout.symm⟩
    · rintro ⟨o, t, score, map, ⟨ho, ⟨bytes, hbytes, ht⟩, hscore, hmap⟩, hout⟩
      exact ⟨o, ho, bytes, hbytes, t, ht, score, hscore, map, hmap.symm, hout.symm⟩
  | some path =>
    simp only [run_bind_eq_ok_iff, run_fetch_eq_ok_iff, run_orFault_eq_ok_iff, run_map_eq_ok_iff,
      run_pure_eq_ok_iff]
    constructor
    · rintro ⟨o, ho, bytes, hbytes, t, ht, score, hscore, bytes', hbytes', options, hoptions, map,
        ⟨m, hm, hmap⟩, hout⟩
      exact ⟨o, t, score, map, ⟨ho, ⟨bytes, hbytes, ht⟩, hscore,
        ⟨bytes', options, m, hbytes', hoptions, hm, hmap.symm⟩⟩, hout.symm⟩
    · rintro ⟨o, t, score, map, ⟨ho, ⟨bytes, hbytes, ht⟩, hscore, bytes', options, m, hbytes',
        hoptions, hm, hmap⟩, hout⟩
      exact ⟨o, ho, bytes, hbytes, t, ht, score, hscore, bytes', hbytes', options, hoptions, map,
        ⟨m, hm, hmap.symm⟩, hout.symm⟩

/-- A lookup that can read its files prints a line for every note of the score that is not a rest
and finds an entry, in the order of the notes. -/
theorem lookup_prints_hits (files : Reader Id) (config : Config) (tablePath scorePath : String)
    (mapPath : Option String) :
    (∀ out, (perform files config (.lookup tablePath scorePath mapPath)).run = .ok out ↔
      ∃ o t score map es, Loads files config tablePath scorePath mapPath o t score map ∧
        Hits t map score.notes es ∧
        out = o.encoding.encode (es.flatMap fun e => e.renderLine o ++ ['\n'])) ∧
    (∀ t map notes es, Hits t map notes es ↔ (SampleTable.resolve t map notes).toList = es) ∧
    (∀ t n e m, Finds t none n e → ∃ e', Finds t (some m) n e') := by
  refine ⟨fun out => ?_, fun t map notes es => SampleTable.hits_iff, fun t n e m h => h.with_map m⟩
  rw [run_lookup_eq_ok_iff]
  constructor
  · rintro ⟨o, t, score, map, hloads, hout⟩
    exact ⟨o, t, score, map, _, hloads, SampleTable.hits_iff.2 rfl, hout⟩
  · rintro ⟨o, t, score, map, es, hloads, hes, hout⟩
    rw [← SampleTable.hits_iff.1 hes] at hout
    exact ⟨o, t, score, map, hloads, hout⟩

/-- A table, a prefix map and a score of three notes, the second of which is a rest. -/
def pieceFiles : Reader Id
  | "oto.ini" => .ok (Utf8.encode "ku.wav=ku,1,2,3,4,5\nku.wav=ku_hi,6,7,8,9,10\n".toList)
  | "prefix.map" => .ok (Utf8.encode "B6\t\t_hi\nC5\t\t_lo\n".toList)
  | "score.ust" => .ok <| Utf8.encode <|
      "[#SETTING]\nTempo=120\nMode2=1\n".toList ++
      "[#0000]\nLength=480\nLyric=ku\nNoteNum=83\n".toList ++
      "[#0001]\nLength=480\nLyric=R\nNoteNum=60\n".toList ++
      "[#0002]\nLength=480\nLyric=ku\nNoteNum=60\n".toList
  | _ => .error .notFound

/-- The high note of a piece gets the sample of its pitch, the rest gets none, and the low note,
whose pitch has no sample, gets that of its lyric: the entry of a lyric stays in reach under a map
whose text around it leads nowhere. -/
theorem lookup_prints_hits_lyric :
    (perform pieceFiles {} (.lookup "oto.ini" "score.ust" (some "prefix.map"))).run =
        .ok (Utf8.encode "ku.wav=ku_hi,6,7,8,9,10\nku.wav=ku,1,2,3,4,5\n".toList) ∧
      ∃ e, Finds (.ofList [⟨"ku.wav", "ku", 0.0, 0.0, 0.0, 0.0, 0.0⟩])
        (some (.ofList [(83, ⟨"", "_hi"⟩)])) (.plain 480 "ku" 83) e := by
  constructor
  · -- What the three files hold.
    obtain ⟨bytes, hbytes, t, htable, ht⟩ : ∃ bytes, pieceFiles "oto.ini" = .ok bytes ∧
        ∃ t, SampleTable.decode {} bytes = .ok t ∧ t.toList = [
          ⟨"ku.wav", "ku", 1.0, 2.0, 3.0, 4.0, 5.0⟩,
          ⟨"ku.wav", "ku_hi", 6.0, 7.0, 8.0, 9.0, 10.0⟩] :=
      ⟨_, rfl, map_eq_ok_iff.1 (by decide +kernel)⟩
    obtain ⟨mapBytes, hmapBytes, m, hmap, hm⟩ : ∃ bytes, pieceFiles "prefix.map" = .ok bytes ∧
        ∃ m, PrefixMap.decode {} bytes = .ok m ∧
          m.entries = [(60, ⟨"", "_lo"⟩), (83, ⟨"", "_hi"⟩)] :=
      ⟨_, rfl, map_eq_ok_iff.1 (by decide +kernel)⟩
    obtain ⟨scoreBytes, hscoreBytes, score, hscore, hnotes⟩ :
        ∃ bytes, pieceFiles "score.ust" = .ok bytes ∧ ∃ score, Score.decode bytes {} = .ok score ∧
          score.notes = [.plain 480 "ku" 83, .plain 480 "R" 60, .plain 480 "ku" 60] :=
      ⟨_, rfl, map_eq_ok_iff.1 (by decide +kernel)⟩
    have hloads : Loads pieceFiles {} "oto.ini" "score.ust" (some "prefix.map") {} t score
        (some m) :=
      { options := rfl
        table := ⟨bytes, hbytes, htable⟩
        score := ⟨scoreBytes, {}, hscoreBytes, rfl, hscore⟩
        map := ⟨mapBytes, {}, m, hmapBytes, rfl, hmap, rfl⟩ }
    have high : Finds t (some m) (.plain 480 "ku" 83)
        ⟨"ku.wav", "ku_hi", 6.0, 7.0, 8.0, 9.0, 10.0⟩ :=
      .asked ⟨by decide, by decide⟩ (.mapped (a := ⟨"", "_hi"⟩) rfl (by rw [hm]; decide))
        ⟨rfl, [_], [], ht, by decide +kernel⟩
    have rest : ∀ e, ¬Finds t (some m) (.plain 480 "R" 60) e := by
      rintro e (⟨⟨h, -⟩, -, -⟩ | ⟨⟨h, -⟩, -, -, -⟩) <;> exact h rfl
    -- The table has no "ku_lo", so the last note falls back on its lyric.
    have low : Finds t (some m) (.plain 480 "ku" 60) ⟨"ku.wav", "ku", 1.0, 2.0, 3.0, 4.0, 5.0⟩ :=
      .bare ⟨by decide, by decide⟩ (.mapped (a := ⟨"", "_lo"⟩) rfl (by rw [hm]; decide))
        (by rw [ht]; decide +kernel) ⟨rfl, [], [_], ht, nofun⟩
    have hits := Hits.hit high (.miss rest (.hit low .nil))
    rw [← hnotes] at hits
    exact ((lookup_prints_hits pieceFiles {} "oto.ini" "score.ust" (some "prefix.map")).1 _).2
      ⟨{}, t, score, some m, _, hloads, hits, by decide +kernel⟩
  · have hbare : Finds (.ofList [⟨"ku.wav", "ku", 0.0, 0.0, 0.0, 0.0, 0.0⟩]) none
        (.plain 480 "ku" 83) ⟨"ku.wav", "ku", 0.0, 0.0, 0.0, 0.0, 0.0⟩ :=
      .asked ⟨by decide, by decide⟩ (.unmapped nofun)
        ⟨rfl, [], [], SampleTable.toList_ofList _, fun _ hx => absurd hx List.not_mem_nil⟩
    exact (lookup_prints_hits pieceFiles {} "oto.ini" "score.ust" none).2.2
      _ _ _ (.ofList [(83, ⟨"", "_hi"⟩)]) hbare

end Command

end VocalScore
