import VocalScore.Proofs.Score.SectionGrammar

/-!
# Lines of one key

A key of a section may stand on several lines, of which the last one counts. So its value is a
matter of the lines that have the key, in their order, and of no others.

## Key results

- `get?_ofLines_eq`: the value of a key by the lines of that key
- `lastValue?_append`: a line may be left out for the keys that it does not have, and for its own if
  that comes again
- `read_of_keyLines`: a text that is a header with key lines under it
-/

namespace VocalScore.Section

/-! ### The value of a key -/

/-- The key of a line. -/
def key? (line : List Char) : Option String := Prod.fst <$> entry? line

/-- The lines of a key, in their order. -/
def linesOf (key : String) (body : List (List Char)) : List (List Char) :=
  body.filter (key? · == some key)

/-- Some line has the key. -/
def HasKey (key : String) (body : List (List Char)) : Prop := ∃ line ∈ body, key? line = some key

instance (key : String) (body : List (List Char)) : Decidable (HasKey key body) :=
  inferInstanceAs (Decidable (∃ line ∈ body, key? line = some key))

/-- The value on the last line of a key. -/
def lastValue? (key : String) (body : List (List Char)) : Option String :=
  ((linesOf key body).getLast?.bind entry?).map Prod.snd

variable {key : String} {body before after : List (List Char)} {line : List Char}

theorem linesOf_append (key : String) (before after : List (List Char)) :
    linesOf key (before ++ after) = linesOf key before ++ linesOf key after :=
  List.filter_append ..

theorem linesOf_cons_of_eq (h : key? line = some key) (body : List (List Char)) :
    linesOf key (line :: body) = line :: linesOf key body :=
  List.filter_cons_of_pos (beq_iff_eq.2 h)

theorem linesOf_cons_of_ne (h : key? line ≠ some key) (body : List (List Char)) :
    linesOf key (line :: body) = linesOf key body :=
  List.filter_cons_of_neg (mt beq_iff_eq.1 h)

theorem linesOf_eq_nil_iff : linesOf key body = [] ↔ ¬HasKey key body := by
  simp [linesOf, HasKey, List.filter_eq_nil_iff]

/-- Lines of other keys may be left out. -/
theorem linesOf_filter {p : List Char → Bool} (h : ∀ l, key? l = some key → p l = true)
    (body : List (List Char)) : linesOf key (body.filter p) = linesOf key body := by
  rw [linesOf, List.filter_filter]
  refine List.filter_congr fun l _ => ?_
  rw [Bool.and_eq_left_iff_imp, beq_iff_eq]
  exact h l

/-- A key is that of a line, or is there without the line. -/
theorem hasKey_append_cons :
    HasKey key (before ++ line :: after) ↔ key? line = some key ∨ HasKey key (before ++ after) := by
  simp only [HasKey, List.mem_append, List.mem_cons]
  constructor
  · rintro ⟨l, hl | rfl | hl, hkey⟩
    · exact Or.inr ⟨l, Or.inl hl, hkey⟩
    · exact Or.inl hkey
    · exact Or.inr ⟨l, Or.inr hl, hkey⟩
  · rintro (hkey | ⟨l, hl | hl, hkey⟩)
    · exact ⟨line, Or.inr (Or.inl rfl), hkey⟩
    · exact ⟨l, Or.inl hl, hkey⟩
    · exact ⟨l, Or.inr (Or.inr hl), hkey⟩

/-- The last line of a key is the first one from the end. -/
theorem getLast?_linesOf (key : String) (body : List (List Char)) :
    (linesOf key body).getLast? = body.reverse.find? (key? · == some key) := by
  rw [linesOf, List.getLast?_eq_head?_reverse, ← List.filter_reverse, List.head?_filter]

/-- The value of a key is that of the last of its lines. -/
theorem get?_ofLines_eq (name : String) (n : Nat) (key : String) (body : List (List Char)) :
    (ofLines [] name n body).get? key = lastValue? key body := by
  have hkey : (fun l => Option.any (·.1 == key) <| entry? l) = (key? · == some key) := by
    funext l
    rw [key?]
    cases entry? l <;> rfl
  show ((body.filterMap entry?).reverse.find? (·.1 == key)).map Prod.snd = _
  rw [lastValue?, getLast?_linesOf, ← List.filterMap_reverse, List.find?_filterMap, hkey]

/-- A key has a value exactly if some line has the key. -/
theorem isSome_lastValue?_iff : (lastValue? key body).isSome = true ↔ HasKey key body := by
  rw [lastValue?, Option.isSome_map]
  cases hlast : (linesOf key body).getLast? with
  | none =>
    have hnil := List.getLast?_eq_none_iff.1 hlast
    simpa using linesOf_eq_nil_iff.1 hnil
  | some l =>
    -- A line of the key has an entry, so the last one has a value.
    obtain ⟨hmem, hkey⟩ := List.mem_filter.1 (List.mem_of_getLast? hlast)
    have hl : key? l = some key := beq_iff_eq.1 hkey
    refine iff_of_true ?_ ⟨l, hmem, hl⟩
    obtain ⟨e, he, -⟩ := Option.map_eq_some_iff.1 hl
    exact Option.isSome_iff_exists.2 ⟨e, he⟩

/-- A key has no value exactly if it is missing. -/
theorem lastValue?_eq_none_iff : lastValue? key body = none ↔ ¬HasKey key body := by
  rw [← isSome_lastValue?_iff, Option.not_isSome_iff_eq_none]

/-- A line may be left out for the keys that it does not have, and for its own if that comes
again. -/
theorem lastValue?_append (h : key? line = some key → HasKey key after) :
    lastValue? key (before ++ line :: after) = lastValue? key (before ++ after) := by
  by_cases hline : key? line = some key
  · have hafter : linesOf key after ≠ [] := fun hnil => linesOf_eq_nil_iff.1 hnil (h hline)
    rw [lastValue?, lastValue?, linesOf_append, linesOf_append, linesOf_cons_of_eq hline,
      List.getLast?_append_of_ne_nil _ (List.cons_ne_nil _ _),
      List.getLast?_append_of_ne_nil _ hafter, List.getLast?_cons_of_ne_nil hafter]
  · rw [lastValue?, lastValue?, linesOf_append, linesOf_append, linesOf_cons_of_ne hline]

/-- The value of a key with a single line. -/
theorem lastValue?_single {value : String} (hline : entry? line = some (key, value))
    (h : ¬HasKey key (before ++ after)) :
    lastValue? key (before ++ line :: after) = some value := by
  have hkey : key? line = some key := by rw [key?, hline]; rfl
  have hnil := linesOf_eq_nil_iff.2 h
  rw [linesOf_append, List.append_eq_nil_iff] at hnil
  rw [lastValue?, linesOf_append, linesOf_cons_of_eq hkey, hnil.1, hnil.2]
  exact congrArg (Option.map Prod.snd) hline

/-! ### A section in a text -/

/-- A key line belongs to the section under way. -/
theorem readLines_keyLines {raw : List String} {p : Progress} (n : Nat)
    (h : ∀ l ∈ body, ∃ e, entry? l = some e) :
    readLines raw p n body = .ok { p with current := p.current.extend raw body } := by
  induction body generalizing p n with
  | nil => rw [extend_nil, readLines]
  | cons l body ih =>
    obtain ⟨⟨e, he⟩, hbody⟩ := List.forall_mem_cons.1 h
    -- A line that makes an entry has its sign, so it is not faulty and no header.
    obtain ⟨hneeds, hsplit⟩ : needsKey l = true ∧ '=' ∈ l := by
      unfold entry? at he
      split at he
      next hneeds =>
        refine ⟨hneeds, by_contra fun hmem => ?_⟩
        rw [Text.splitOnce_eq_none.2 hmem] at he
        cases he
      · cases he
    rw [readLines, readLine_of_not_opens (opensBracket_of_needsKey hneeds),
      if_neg fun hc => hc.2.2 hsplit]
    show readLines raw { p with current := p.current.extend raw [l] } (n + 1) body = _
    rw [ih (n + 1) hbody, extend_cons]

/-- A text that is a header with key lines under it has one section, after the one without lines
that stands for what comes before the header. -/
theorem read_of_keyLines {raw : List String} {text name : String} {header : List Char}
    (hraw : name ∉ raw) (htext : textLines text = header :: body)
    (hheader : headerName? header = some name) (hbody : ∀ l ∈ body, ∃ e, entry? l = some e) :
    read raw text = .ok [empty headName 0, ofLines [] name 1 body] := by
  -- The section is not raw, so it is read as if none were.
  have hofLines : ofLines raw name 1 body = ofLines [] name 1 body := by
    rw [ofLines, ofLines, if_neg (mt List.contains_iff_mem.1 hraw)]
    rfl
  show (readLines raw .start 1 (textLines text)).map _ = _
  rw [htext, readLines, readLine_of_headerName? hheader]
  show (readLines raw ⟨[empty headName 0], empty name 1⟩ 2 body).map _ = _
  rw [readLines_keyLines 2 hbody, ← hofLines, ← extend_empty]
  rfl

end VocalScore.Section
