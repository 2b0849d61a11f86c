import VocalScore.Proofs.Voicebank.LiveLines
import VocalScore.Proofs.Voicebank.PrefixRoundTrip

/-!
# Texts of prefix maps, line by line

A text of bindings is read if each of its live lines is a binding, and its map then gives a pitch
the affix of the last live line that names it, under whatever spelling. Otherwise the error is
that of the first live line that is no binding. Two texts one after the other are read as two
maps, of which the second overrides the first.

## Key results

- `get?_foldl_insert`: the last binding of a pitch counts
- `readBinding_eq_error_iff`: what is wrong with a line
- `readBinding_add`: a line is read alike under any number, but for the number in its error
- `read_append`: two texts one after the other
- `read_last_binding`: all of these for the text as a whole
-/

namespace VocalScore.PrefixMap

open Traversal

/-! ### The last binding of a pitch -/

/-- The affix of the last binding of a pitch in a list. -/
def last? (es : List (UInt8 × Affix)) (n : UInt8) : Option Affix :=
  (es.reverse.find? (·.1 == n)).map (·.2)

/-- A binding in front counts only if the pitch is not bound again. -/
theorem last?_cons (e : UInt8 × Affix) (es : List (UInt8 × Affix)) (n : UInt8) :
    last? (e :: es) n = (last? es n).or (if e.1 = n then some e.2 else none) := by
  rw [last?, List.reverse_cons, List.find?_append, Option.map_or, ← last?]
  by_cases h : e.1 = n <;> simp [h]

/-- Bindings put into a map come before those that it has, the last of them first. -/
theorem get?_foldl_insert (m : PrefixMap) (es : List (UInt8 × Affix)) (n : UInt8) :
    (es.foldl (fun m e => m.insert e.1 e.2) m).get? n = (last? es n).or (m.get? n) := by
  -- The map changes with every binding, so the induction is over all maps.
  induction es generalizing m with
  | nil => rfl
  | cons e es ih =>
    rw [List.foldl_cons, ih, get?_insert, last?_cons, Option.or_assoc]
    by_cases h : e.1 = n <;> simp [h]

/-- The last binding of a pitch is one after which the pitch is not bound again. -/
theorem last?_eq_some_iff {es : List (UInt8 × Affix)} {n : UInt8} {a : Affix} :
    last? es n = some a ↔
      ∃ before after, es = before ++ (n, a) :: after ∧ ∀ e ∈ after, e.1 ≠ n := by
  rw [last?, Option.map_eq_some_iff]
  simp only [List.find?_eq_some_iff_append, beq_iff_eq]
  constructor
  · rintro ⟨⟨n, a⟩, ⟨rfl, after, before, hes, hafter⟩, rfl⟩
    refine ⟨before.reverse, after.reverse, ?_, fun e he => ?_⟩
    · simpa using congrArg List.reverse hes
    · simpa using hafter e (List.mem_reverse.1 he)
  · rintro ⟨before, after, rfl, hafter⟩
    refine ⟨(n, a), ⟨rfl, after.reverse, before.reverse, by simp, fun e he => ?_⟩, rfl⟩
    simpa using hafter e (List.mem_reverse.1 he)

/-- A pitch has no last binding exactly if it has none. -/
theorem last?_eq_none_iff {es : List (UInt8 × Affix)} {n : UInt8} :
    last? es n = none ↔ ∀ e ∈ es, e.1 ≠ n := by
  simp [last?]

/-- A map gives a pitch what its entries bind it to. -/
theorem get?_eq_last? (m : PrefixMap) (n : UInt8) : m.get? n = last? m.entries n := by
  have h := get?_foldl_insert empty m.entries n
  rwa [← ofList, ofList_entries, get?_empty, Option.or_none] at h

/-- A map with the bindings of another put into it. -/
def overriddenBy (m u : PrefixMap) : PrefixMap :=
  u.entries.foldl (fun m e => m.insert e.1 e.2) m

/-- The other map is asked first. -/
theorem get?_overriddenBy (m u : PrefixMap) (n : UInt8) :
    (m.overriddenBy u).get? n = (u.get? n).or (m.get? n) := by
  rw [overriddenBy, get?_foldl_insert, get?_eq_last? u]

/-! ### Lines -/

/-- A line is a binding: the name of a pitch and two fields, of which the second keeps all later
delimiters. White space around the fields does not count. -/
def Binds (o : PrefixMapOptions) (line : List Char) (e : UInt8 × Affix) : Prop :=
  ∃ name before after,
    line = name ++ o.delimiter :: before ++ o.delimiter :: after ∧
    o.delimiter ∉ name ∧ o.delimiter ∉ before ∧
    PitchName.read o.octaves (String.ofList name) = .ok e.1 ∧
    e.2 = ⟨String.ofList (Text.trim before), String.ofList (Text.trim after)⟩

/-- What is wrong with a line: it has less than three fields, or else the first of them is no name
of a pitch. -/
inductive Faulty (o : PrefixMapOptions) (k : Nat) (line : List Char) : VoicebankError → Prop
  | fields (h : line.count o.delimiter < 2) : Faulty o k line (.missingFields k)
  | pitch {name rest : List Char} {e : VoicebankError} (hline : line = name ++ o.delimiter :: rest)
      (hname : o.delimiter ∉ name) (hrest : o.delimiter ∈ rest)
      (h : PitchName.read o.octaves (String.ofList name) = .error e) : Faulty o k line e

/-- A line makes one binding. -/
theorem Binds.unique {o : PrefixMapOptions} {line : List Char} {e e' : UInt8 × Affix}
    (h : Binds o line e) (h' : Binds o line e') : e = e' :=
  Except.ok.inj ((readBinding_eq_ok_iff (k := 0).2 h).symm.trans (readBinding_eq_ok_iff.2 h'))

/-- A line that is not passed over fails exactly with what is wrong with it. -/
theorem readBinding_eq_error_iff {o : PrefixMapOptions} {k : Nat} {line : List Char}
    {e : VoicebankError} : readBinding o k line = .error e ↔ Faulty o k line e := by
  constructor
  · intro h
    rw [readBinding] at h
    split at h
    next hsplit =>
      cases h
      exact .fields (Text.splitThree_eq_none.1 hsplit)
    next name before after hsplit =>
      obtain ⟨hline, hname, -⟩ := Text.splitThree_eq_some.1 hsplit
      rw [List.append_assoc, List.cons_append] at hline
      exact .pitch hline hname (List.mem_append_right before List.mem_cons_self)
        (map_eq_error_iff.1 h)
  · intro h
    cases h with
    | fields h => rw [readBinding, Text.splitThree_eq_none.2 h]
    | @pitch name rest e hline hname hrest h =>
      -- The rest is cut at its first delimiter.
      cases hcut : Text.splitOnce o.delimiter rest with
      | none => exact absurd hrest (Text.splitOnce_eq_none.1 hcut)
      | some p =>
        obtain ⟨hrest, hbefore⟩ := Text.splitOnce_eq_some.1 hcut
        have hsplit : Text.splitThree o.delimiter line = some (name, p.1, p.2) :=
          Text.splitThree_eq_some.2 ⟨by rw [hline, hrest]; simp, hname, hbefore⟩
        rw [readBinding, hsplit]
        exact map_eq_error_iff.2 h

/-- The error of a name does not move. -/
theorem moved_of_read {octaves : OctaveNumbering} {s : String} {e : VoicebankError}
    (h : PitchName.read octaves s = .error e) (k : Nat) : e.moved k = e := by
  -- Neither error of a name has the number of a line.
  rcases PitchName.read_eq_error_iff.1 h with ⟨rfl, -⟩ | ⟨_, _, -, -, rfl⟩
  · rfl
  · rfl

/-- A faulty line that is moved is faulty with the same error, but for the number. -/
theorem Faulty.moved {o : PrefixMapOptions} {n : Nat} {line : List Char} {e : VoicebankError}
    (h : Faulty o n line e) (k : Nat) : Faulty o (n + k) line (e.moved k) := by
  cases h with
  | fields h => exact .fields h
  | pitch hline hname hrest h =>
    rw [moved_of_read h]
    exact .pitch hline hname hrest h

/-- A line is read alike under any number, but for the number in its error. -/
theorem readBinding_add (o : PrefixMapOptions) (n k : Nat) (line : List Char) :
    readBinding o (n + k) line = (readBinding o n line).mapError (·.moved k) := by
  -- Neither which lines are bindings nor what is wrong with them depends on the number.
  cases h : readBinding o n line with
  | ok e => exact readBinding_eq_ok_iff.2 (readBinding_eq_ok_iff.1 h)
  | error e => exact readBinding_eq_error_iff.2 ((readBinding_eq_error_iff.1 h).moved k)

/-! ### Texts -/

/-- The live lines of a text are read one by one. -/
theorem read_eq_mapM (o : PrefixMapOptions) (text : String) :
    read o text =
      ((liveLines o.comment text).mapM fun p => readBinding o p.2 p.1).map ofList := by
  rw [read, readLines_eq_mapM, liveLines_eq_kept (isSkipped_eq o.comment)]
  rfl

/-- Lines are read alike after any bindings and with any numbers. -/
theorem readLines_after (o : PrefixMapOptions) (m : PrefixMap) (n k : Nat)
    (ls : List (List Char)) :
    readLines o m (n + k) ls =
      ((readLines o empty n ls).map m.overriddenBy).mapError (·.moved k) := by
  rw [readLines_eq_mapM, readLines_eq_mapM, mapM_kept_add fun n line => readBinding_add o n k line]
  cases (kept (isSkipped o.comment) n ls).mapM fun p => readBinding o p.2 p.1 with
  | error e => rfl
  | ok es =>
    -- The bindings come after those of `m` on both sides, one by one or as a map of their own.
    refine congrArg Except.ok (ext_get? fun i => ?_)
    rw [get?_overriddenBy, get?_foldl_insert, get?_foldl_insert, get?_empty, Option.or_none]

/-- A text that another one follows is read first, and the other as a text of its own. -/
theorem read_append (o : PrefixMapOptions) {text more : String} (htext : EndsLine text)
    (hmore : more.toList.head? ≠ some '\uFEFF') :
    read o (text ++ more) = (read o text).bind fun m =>
      ((read o more).map m.overriddenBy).mapError (·.moved (text.toList.count '\n')) := by
  obtain ⟨hlines, hcount⟩ := lines_append htext hmore
  simp only [read, hlines, readLines_append, readLines_after, hcount]

/-- The last binding of a pitch among lines that were read. -/
theorem last?_eq_some_iff_of_forall₂ {o : PrefixMapOptions} {ls : List (List Char × Nat)}
    {es : List (UInt8 × Affix)} (h : List.Forall₂ (fun p e => Binds o p.1 e) ls es) {n : UInt8}
    {a : Affix} :
    last? es n = some a ↔
      ∃ before p after, ls = before ++ p :: after ∧ Binds o p.1 (n, a) ∧
        ∀ q ∈ after, ∀ b, ¬Binds o q.1 (n, b) := by
  rw [last?_eq_some_iff]
  constructor
  · rintro ⟨before, after, rfl, hafter⟩
    obtain ⟨lines, p, rest, rfl, hp, hrest⟩ := exists_append_of_forall₂ h.flip
    -- A later line for the pitch would have given a later binding.
    refine ⟨lines, p, rest, rfl, hp, fun q hq b hb => ?_⟩
    obtain ⟨e, he, hqe⟩ := exists_mem_of_forall₂ hrest hq
    exact hafter e he (congrArg Prod.fst (Binds.unique hqe hb))
  · rintro ⟨before, p, after, rfl, hp, hafter⟩
    obtain ⟨init, e, rest, rfl, he, hrest⟩ := exists_append_of_forall₂ h
    refine ⟨init, rest, by rw [Binds.unique he hp], fun d hd hdn => ?_⟩
    obtain ⟨q, hq, hqd⟩ := exists_mem_of_forall₂ hrest hd
    exact hafter q hq d.2 (hdn ▸ hqd)

/-- A pitch has no last binding exactly if no line makes one. -/
theorem last?_eq_none_iff_of_forall₂ {o : PrefixMapOptions} {ls : List (List Char × Nat)}
    {es : List (UInt8 × Affix)} (h : List.Forall₂ (fun p e => Binds o p.1 e) ls es) {n : UInt8} :
    last? es n = none ↔ ∀ p ∈ ls, ∀ a, ¬Binds o p.1 (n, a) := by
  rw [last?_eq_none_iff]
  constructor
  · intro hes p hp a hpa
    obtain ⟨e, he, hpe⟩ := exists_mem_of_forall₂ h.flip hp
    exact hes e he (congrArg Prod.fst (Binds.unique hpe hpa))
  · intro hls e he hen
    obtain ⟨p, hp, hpe⟩ := exists_mem_of_forall₂ h he
    exact hls p hp e.2 (hen ▸ hpe)

/-- A text of bindings is read exactly if each of its live lines is a binding. Its map then gives
a pitch the affix of the last live line that binds it, whatever name that line and others have for
the pitch, and gives nothing to a pitch that no line binds. Otherwise the error is what is wrong
with the first live line that is no binding. A text that starts on a line of its own is read as a
map of its own, which overrides the other and whose lines are counted from there on. -/
theorem read_last_binding (o : PrefixMapOptions) (text : String) :
    ((∃ m, read o text = .ok m) ↔ ∀ p ∈ liveLines o.comment text, ∃ e, Binds o p.1 e) ∧
    (∀ e, read o text = .error e ↔
      ∃ before p after, liveLines o.comment text = before ++ p :: after ∧
        (∀ q ∈ before, ∃ e, Binds o q.1 e) ∧ Faulty o p.2 p.1 e) ∧
    (∀ m, read o text = .ok m → ∀ n,
      (m.get? n = none ↔ ∀ p ∈ liveLines o.comment text, ∀ a, ¬Binds o p.1 (n, a)) ∧
      ∀ a, m.get? n = some a ↔
        ∃ before p after, liveLines o.comment text = before ++ p :: after ∧
          Binds o p.1 (n, a) ∧ ∀ q ∈ after, ∀ b, ¬Binds o q.1 (n, b)) ∧
    (∀ more : String, EndsLine text → more.toList.head? ≠ some '\uFEFF' →
      read o (text ++ more) = (read o text).bind fun m =>
        ((read o more).map m.overriddenBy).mapError (·.moved (text.toList.count '\n'))) ∧
    ∀ (m u : PrefixMap) n, (m.overriddenBy u).get? n = (u.get? n).or (m.get? n) := by
  refine ⟨?_, fun e => ?_, ?_, fun more => read_append o, get?_overriddenBy⟩
  · rw [read_eq_mapM, exists_map_eq_ok_iff, exists_mapM_eq_ok_iff]
    simp only [readBinding_eq_ok_iff, Binds]
  · rw [read_eq_mapM, map_eq_error_iff, mapM_eq_error_iff]
    simp only [readBinding_eq_ok_iff, readBinding_eq_error_iff, Binds]
  · intro m hm n
    rw [read_eq_mapM, map_eq_ok_iff] at hm
    obtain ⟨es, hes, rfl⟩ := hm
    -- Each live line gave one binding, so the last bindings are those of the last lines.
    have hbinds : List.Forall₂ (fun p e => Binds o p.1 e) (liveLines o.comment text) es :=
      (mapM_eq_ok_iff.1 hes).imp fun p e h => readBinding_eq_ok_iff.1 h
    rw [ofList, get?_foldl_insert, get?_empty, Option.or_none]
    exact ⟨last?_eq_none_iff_of_forall₂ hbinds, fun a => last?_eq_some_iff_of_forall₂ hbinds⟩

/-- The second text names a pitch of the first one in another way, and keeps its third tab. -/
theorem read_last_binding_two_texts :
    EndsLine "C#5\tlow\t\n# x\nC5\t\t_\n" ∧ "db5\t\t a\tb\n".toList.head? ≠ some '\uFEFF' ∧
      read {} ("C#5\tlow\t\n# x\nC5\t\t_\n" ++ "db5\t\t a\tb\n") =
        .ok (ofList [(60, ⟨"", "_"⟩), (61, ⟨"", "a\tb"⟩)]) := by
  have htext : EndsLine "C#5\tlow\t\n# x\nC5\t\t_\n" := Or.inr (by decide)
  have hmore : "db5\t\t a\tb\n".toList.head? ≠ some '\uFEFF' := by decide
  refine ⟨htext, hmore, ?_⟩
  rw [(read_last_binding {} _).2.2.2.1 _ htext hmore]
  decide +kernel

end VocalScore.PrefixMap
