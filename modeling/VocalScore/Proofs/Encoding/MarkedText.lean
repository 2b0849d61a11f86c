import VocalScore.Proofs.Encoding.Output
import VocalScore.Proofs.Voicebank.ProfileLines
import VocalScore.Score.Basic
import VocalScore.Voicebank.Manifest
import VocalScore.Voicebank.SampleTable

/-!
# Bytes and text with a byte order mark

Reading bytes drops one byte order mark, and so does reading the text of a score, a sample table, a
prefix map or a manifest; so it does not matter which of the two comes first. A profile is the
exception: its text keeps the mark, which becomes part of the first key or of the first line of free
text.

## Key results

- `decode_encode_eq_dropMark`: the text of the bytes of a text
- `Profile.read_mark_eq_iff`: when a mark does not change a profile
- `decode_encode_eq_read`: reading bytes and reading text, for all formats
-/

namespace VocalScore

namespace Encoding

/-- The bytes of a text are read without its first mark. -/
theorem decode_encode_eq_dropMark (s : List Char) :
    Encoding.utf8.decode (Utf8.encode s) = Text.dropMark s := by
  by_cases hmark : s.head? = some '\uFEFF'
  · obtain ⟨r, rfl⟩ := List.head?_eq_some_iff.1 hmark
    -- The mark of the encoding is the bytes of the character.
    have hbytes : Utf8.encode ('\uFEFF' :: r) = mark .utf8 ++ Utf8.encode r := rfl
    have hdrop : dropBytes (mark .utf8) (mark .utf8 ++ Utf8.encode r) = Utf8.encode r := by
      rw [dropBytes, if_pos (List.isPrefixOf_iff_prefix.2 (List.prefix_append _ _)), List.drop_left]
    rw [decode, hbytes, hdrop]
    exact Utf8.decode_encode r
  · rw [decode, dropBytes_encode hmark, Text.dropMark_eq_self_iff.2 hmark]
    exact Utf8.decode_encode s

end Encoding

/-- A text with one mark in front at most has none after the first is dropped. -/
theorem Text.dropMark_dropMark {s : List Char} (h : ¬['\uFEFF', '\uFEFF'] <+: s) :
    dropMark (dropMark s) = dropMark s := by
  rw [dropMark_eq_self_iff]
  intro hmark
  obtain ⟨r, hr⟩ := List.head?_eq_some_iff.1 hmark
  -- A mark that is left over was the second one.
  apply h
  cases s with
  | nil => cases hr
  | cons c q =>
    rw [dropMark] at hr
    split at hr
    next hc =>
      rw [hc, hr]
      exact List.prefix_append ['\uFEFF', '\uFEFF'] r
    next hc => exact absurd (List.cons.inj hr).1 hc

/-! ### Profiles -/

namespace Profile

/-- A mark before a text has no effect on its profile: the first line has a key, and what it sets is
set again by a later line, or is there in any case. -/
def MarkHarmless (s : List Char) : Prop :=
  ∃ first rest, Text.lines s = first :: rest ∧ isFree first = false ∧
    ∀ slot value, setting? slot first = some value →
      ({} : Profile).get slot = some value ∨ ∃ line ∈ rest, (setting? slot line).isSome = true

/-- No key begins with a mark. -/
theorem setting?_mark (slot : Slot) (line : List Char) :
    setting? slot ('\uFEFF' :: line) = none := by
  -- The mark is not blank, so it stays in front of the key, and no field starts with it.
  have hkey : ∀ key, String.ofList (Text.trim ('\uFEFF' :: key)) ≠ slot.key := by
    intro key heq
    obtain ⟨r, hr⟩ := Text.trim_cons (c := '\uFEFF') (by decide) key
    have hlist := congrArg String.toList heq
    rw [String.toList_ofList, hr] at hlist
    cases slot <;> exact absurd (List.cons.inj hlist).1 (by decide)
  rw [setting?, Text.splitOnce, if_neg (by decide)]
  cases Text.splitOnce '=' line with
  | none => rfl
  | some parts => exact if_neg fun h => hkey parts.1 h.2

/-- A mark makes the separator at the beginning of a line one after a key. -/
theorem isFree_mark (line : List Char) :
    isFree ('\uFEFF' :: line) = (Text.splitOnce '=' line).isNone := by
  rw [isFree, Text.splitOnce, if_neg (by decide)]
  cases Text.splitOnce '=' line <;> rfl

/-- A first line gives a profile the same free text with a mark and without, if it gives none. -/
theorem freeText_mark_eq_iff (first : List Char) :
    freeText [first] = freeText ['\uFEFF' :: first] ↔ isFree first = false := by
  have hmark := isFree_mark first
  rw [freeText, freeText, List.filter_cons, List.filter_cons, hmark, isFree]
  cases Text.splitOnce '=' first with
  | none => simp
  | some parts => by_cases hkey : parts.1 = [] <;> simp [hkey]

/-- When a mark in front of a text does not change its profile. -/
theorem read_mark_eq_iff (s : List Char) :
    read (String.ofList s) = read (String.ofList ('\uFEFF' :: s)) ↔ MarkHarmless s := by
  rw [read, read, String.toList_ofList, String.toList_ofList]
  cases hs : Text.lines s with
  | nil =>
    -- The mark is all of the text, and free text of the profile.
    have hnil : s = [] := by
      by_contra hne
      exact Text.lines_ne_nil hne hs
    subst hnil
    refine iff_of_false (by decide +kernel) ?_
    rintro ⟨first, rest, hlines, -⟩
    cases hlines
  | cons first rest =>
    have hmark : Text.lines ('\uFEFF' :: s) = ('\uFEFF' :: first) :: rest := by
      rw [Text.lines, if_neg (by decide), if_neg fun hcr => absurd hcr.1 (by decide), hs]
    -- Only the first line differs: by its free text and by the field that it sets.
    have hextra : (readLine {} first).extra = (readLine {} ('\uFEFF' :: first)).extra ↔
        isFree first = false := by
      rw [extra_readLine, extra_readLine, String.append_right_inj, String.ofList_inj,
        freeText_mark_eq_iff]
    have hget : ∀ slot, (readLine {} first).get slot = (readLine {} ('\uFEFF' :: first)).get slot ↔
        ∀ value, setting? slot first = some value → ({} : Profile).get slot = some value := by
      intro slot
      rw [get_readLine, get_readLine, setting?_mark, Option.none_or]
      cases setting? slot first <;> simp [eq_comm]
    rw [hmark, List.foldl_cons, List.foldl_cons, foldl_readLine_eq_iff, hextra]
    simp only [hget, MarkHarmless, hs, List.cons.injEq]
    constructor
    · rintro ⟨hfree, hset⟩
      exact ⟨first, rest, ⟨rfl, rfl⟩, hfree, fun slot value hvalue =>
        (hset slot).imp_left fun hdefault => hdefault value hvalue⟩
    · rintro ⟨_, _, ⟨rfl, rfl⟩, hfree, hset⟩
      refine ⟨hfree, fun slot => ?_⟩
      by_cases hlater : ∃ line ∈ rest, (setting? slot line).isSome = true
      · exact Or.inr hlater
      · exact Or.inl fun value hvalue => (hset slot value hvalue).resolve_right hlater

end Profile

/-! ### All formats -/

/-- A score is read in the encoding that is detected. -/
theorem Score.decode_of_detect {bytes : List UInt8} {o : ScoreOptions} {e : Encoding}
    (h : Encoding.detect bytes o.window o.fallback = .ok e) :
    Score.decode bytes o = Score.read (String.ofList (e.decode bytes)) := by
  rw [Score.decode, h]
  rfl

/-- The bytes of a text with one mark in front at most, read as UTF-8, give what reading the text
gives, for a score that is taken to be in UTF-8, a sample table, a prefix map and a manifest. For a
profile they do exactly if the text has no mark or the mark does not matter. -/
theorem decode_encode_eq_read (t : String) (h : ¬['\uFEFF', '\uFEFF'] <+: t.toList) :
    (∀ o, Encoding.detect (Utf8.encode t.toList) o.window o.fallback = .ok .utf8 →
      Score.decode (Utf8.encode t.toList) o = Score.read t) ∧
    (∀ o, o.encoding = .utf8 →
      SampleTable.decode o (Utf8.encode t.toList) = SampleTable.read o t) ∧
    (∀ o, o.encoding = .utf8 →
      PrefixMap.decode o (Utf8.encode t.toList) = PrefixMap.read o t) ∧
    Manifest.decode .utf8 (Utf8.encode t.toList) = Manifest.read t ∧
    (Profile.decode .utf8 (Utf8.encode t.toList) = Profile.read t ↔
      ∀ r, t.toList = '\uFEFF' :: r → Profile.MarkHarmless r) := by
  -- Decoding drops one mark, so a reader that drops another sees the same text.
  have htext := Encoding.decode_encode_eq_dropMark t.toList
  have hmark : Text.dropMark (String.ofList (Text.dropMark t.toList)).toList =
      Text.dropMark t.toList := by
    rw [String.toList_ofList, Text.dropMark_dropMark h]
  have hsections : ∀ raw, Section.read raw (String.ofList (Text.dropMark t.toList)) =
      Section.read raw t := fun raw => by rw [Section.read, hmark, Section.read]
  refine ⟨fun o ho => ?_, fun o ho => ?_, fun o ho => ?_, ?_, ?_⟩
  · rw [Score.decode_of_detect ho, htext, Score.read, hsections, Score.read]
  · rw [SampleTable.decode, ho, htext, SampleTable.read, hmark, SampleTable.read]
  · rw [PrefixMap.decode, ho, htext, PrefixMap.read, hmark, PrefixMap.read]
  · rw [Manifest.decode, htext, Manifest.read, hsections, Manifest.read]
  · -- A profile is read with its mark, which may hide the key of the first line.
    rw [Profile.decode, htext]
    by_cases hhead : t.toList.head? = some '\uFEFF'
    · obtain ⟨r, hr⟩ := List.head?_eq_some_iff.1 hhead
      have hdrop : Text.dropMark t.toList = r := by rw [hr]; rfl
      have ht : t = String.ofList ('\uFEFF' :: r) := by rw [← hr, String.ofList_toList]
      rw [hdrop]
      conv_lhs => rw [ht]
      rw [Profile.read_mark_eq_iff, hr]
      exact ⟨fun hr' q hq => (List.cons.inj hq).2 ▸ hr', fun hall => hall r rfl⟩
    · rw [Text.dropMark_eq_self_iff.2 hhead, String.ofList_toList]
      refine iff_of_true rfl fun r hr => absurd ?_ hhead
      rw [hr, List.head?_cons]

/-- A text with a mark and an empty declaration, read as each of the formats. -/
theorem decode_encode_eq_read_marked :
    Score.decode (Utf8.encode "\uFEFFCharset=\n[#SETTING]\n".toList) {} =
      Score.read "\uFEFFCharset=\n[#SETTING]\n" ∧
    SampleTable.decode {} (Utf8.encode "\uFEFFCharset=\n[#SETTING]\n".toList) =
      SampleTable.read {} "\uFEFFCharset=\n[#SETTING]\n" ∧
    PrefixMap.decode {} (Utf8.encode "\uFEFFCharset=\n[#SETTING]\n".toList) =
      PrefixMap.read {} "\uFEFFCharset=\n[#SETTING]\n" ∧
    Manifest.decode .utf8 (Utf8.encode "\uFEFFCharset=\n[#SETTING]\n".toList) =
      Manifest.read "\uFEFFCharset=\n[#SETTING]\n" := by
  have h := decode_encode_eq_read "\uFEFFCharset=\n[#SETTING]\n" (by decide +kernel)
  exact ⟨h.1 {} (by decide +kernel), h.2.1 {} rfl, h.2.2.1 {} rfl, h.2.2.2.1⟩

/-- A mark in front of the name of a voicebank loses the name, if the text is read, and not if its
bytes are. -/
theorem decode_encode_ne_read :
    Profile.decode .utf8 (Utf8.encode "\uFEFFname=a\n".toList) = { name := "a" } ∧
    Profile.read "\uFEFFname=a\n" = {} ∧
    Profile.decode .utf8 (Utf8.encode "\uFEFFname=a\n".toList) ≠ Profile.read "\uFEFFname=a\n" := by
  refine ⟨?_, ?_, ?_⟩ <;> decide +kernel

end VocalScore
