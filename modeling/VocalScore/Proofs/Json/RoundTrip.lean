import VocalScore.Json.Parser
import VocalScore.Json.Printer
import VocalScore.Proofs.Json.Numeral

/-!
# Written values read back

A reader looks past the line breaks and spaces between the parts of a text, so the depth at
which a value was written does not matter to it. What follows a value is a comma, a line break
or nothing, and none of these goes on with a numeral.

## Key results

- `readsBack`: a written value is read from the front of a text
- `read_render`: the text of a written value is read as that value
-/

namespace VocalScore.Json

/-- A value whose leaves are spelled as they are written. -/
inductive Written : Json → Prop
  | null : Written .null
  | bool (b : Bool) : Written (.bool b)
  | number {s : List Char} : IsNumeral s → Written (.number s)
  | string (s : List Char) : Written (.string (escape s))
  | array {js : List Json} : (∀ j ∈ js, Written j) → Written (.array js)
  | object {ms : List (List Char × Json)} :
      (∀ m ∈ ms, ∃ s, m.1 = escape s) → (∀ m ∈ ms, Written m.2) → Written (.object ms)

@[simp] theorem written_bool (b : Bool) : Written (.bool b) := .bool b

@[simp] theorem written_text (s : String) : Written (text s) := .string _

@[simp] theorem written_whole (n : Int) : Written (whole n) := .number (isNumeral_decimal n)

/-- A float is written as a numeral, or as `null` if it is not finite. -/
@[simp] theorem written_real (x : Float) : Written (real x) := by
  rw [real]
  split
  next h => exact .number (isNumeral_render h)
  next => exact .null

/-- What may be missing is written as `null` or as itself. -/
@[simp] theorem written_optional {f : α → Json} {o : Option α} (h : ∀ x ∈ o, Written (f x)) :
    Written (optional f o) := by
  cases o with
  | none => exact .null
  | some x => exact h x rfl

/-- A list is written as its items are. -/
@[simp] theorem written_list {f : α → Json} {xs : List α} (h : ∀ x ∈ xs, Written (f x)) :
    Written (list f xs) := by
  refine .array fun j hj => ?_
  obtain ⟨x, hx, rfl⟩ := List.mem_map.1 hj
  exact h x hx

/-- A record is written as its fields are. -/
theorem written_record {names : List String} {js : List Json} (h : ∀ j ∈ js, Written j) :
    Written (record (names.zip js)) := by
  refine .object (fun m hm => ?_) fun m hm => ?_
  · obtain ⟨p, -, rfl⟩ := List.mem_map.1 hm
    exact ⟨p.1.toList, rfl⟩
  · obtain ⟨p, hp, rfl⟩ := List.mem_map.1 hm
    exact h p.2 (List.of_mem_zip hp).2

/-! ### Spaces and what follows a value -/

/-- A line break and the indent after it are space. -/
theorem skipSpace_newLine (depth : Nat) (s : List Char) :
    skipSpace (newLine depth ++ s) = skipSpace s := by
  -- A newline and then spaces.
  have hspace : ∀ c ∈ newLine depth, isSpace c = true := by
    intro c hc
    rcases List.mem_cons.1 hc with rfl | hc
    · rfl
    · rw [List.eq_of_mem_replicate hc]
      rfl
  rw [skipSpace, List.dropWhile_append_of_pos hspace]
  rfl

theorem skipSpace_cons {c : Char} (h : isSpace c = false) (s : List Char) :
    skipSpace (c :: s) = c :: s := List.dropWhile_cons_of_neg (by simp [h])

/-- A reader of a value passes over a line break. -/
theorem readValue_newLine (fuel depth : Nat) (s : List Char) :
    readValue fuel (newLine depth ++ s) = readValue fuel s := by
  cases fuel with
  | zero => rfl
  | succ fuel => rw [readValue, readValue, skipSpace_newLine]

theorem readValue_space (fuel : Nat) (s : List Char) :
    readValue fuel (' ' :: s) = readValue fuel s := by
  cases fuel with
  | zero => rfl
  | succ fuel => rw [readValue, readValue]; rfl

theorem ends_newLine (depth : Nat) (s : List Char) : Numeral.Ends (newLine depth ++ s) := by
  intro c q h
  obtain ⟨rfl, -⟩ := List.cons.inj h
  decide

theorem ends_comma (s : List Char) : Numeral.Ends (',' :: s) := by
  intro c q h
  obtain ⟨rfl, -⟩ := List.cons.inj h
  decide

/-- No numeral goes on with what follows an item of a list. -/
theorem ends_renderItems (depth : Nat) (js : List Json) (r : List Char) :
    Numeral.Ends (renderItems depth js ++ r) := by
  cases js with
  | nil =>
    rw [renderItems, List.append_assoc]
    exact ends_newLine depth _
  | cons j js => exact ends_comma _

/-- No numeral goes on with what follows a member of an object. -/
theorem ends_renderMembers (depth : Nat) (ms : List (List Char × Json)) (r : List Char) :
    Numeral.Ends (renderMembers depth ms ++ r) := by
  cases ms with
  | nil =>
    rw [renderMembers, List.append_assoc]
    exact ends_newLine depth _
  | cons m ms => exact ends_comma _

/-! ### Leaves -/

/-- A numeral starts with a digit or the minus sign. -/
theorem exists_cons_of_isNumeral {s : List Char} (h : IsNumeral s) :
    ∃ c q, s = c :: q ∧ (c = '-' ∨ c.isDigit = true) := by
  obtain ⟨n, hn, rfl⟩ := h
  have hlead : ∃ c q, n.whole = c :: q := by
    rcases hn.lead with h | ⟨c, q, h, -⟩
    · exact ⟨_, _, h⟩
    · exact ⟨c, q, h⟩
  obtain ⟨c, q, hcons⟩ := hlead
  have hdigit := hn.whole
  rw [hcons, List.all_cons, Bool.and_eq_true] at hdigit
  rw [Numeral.spelling, hcons]
  -- A numeral starts with its sign or with a digit.
  cases n.negative with
  | true => exact ⟨'-', _, rfl, Or.inl rfl⟩
  | false => exact ⟨c, _, rfl, Or.inr hdigit.1⟩

/-- What a numeral starts with is no white space, and starts nothing else. -/
theorem not_special_of_numeral {c : Char} (h : c = '-' ∨ c.isDigit = true) :
    isSpace c = false ∧ ∀ d ∈ ['"', '[', ']', '\x7b', 'n', 't', 'f'], c ≠ d := by
  rcases h with rfl | h
  · exact ⟨rfl, by simp⟩
  · constructor
    · by_contra hspace
      rw [Bool.not_eq_false, isSpace] at hspace
      simp only [Bool.or_eq_true, decide_eq_true_eq] at hspace
      rcases hspace with ((rfl | rfl) | rfl) | rfl <;> exact absurd h (by decide)
    · rintro d hd rfl
      simp only [List.mem_cons, List.not_mem_nil, or_false] at hd
      rcases hd with rfl | rfl | rfl | rfl | rfl | rfl | rfl <;> exact absurd h (by decide)

/-- What a value starts with. -/
theorem exists_cons_of_written {j : Json} (h : Written j) (depth : Nat) :
    ∃ c q, renderAt depth j = c :: q ∧ isSpace c = false ∧ c ≠ ']' := by
  cases h with
  | null => exact ⟨_, _, rfl, by decide⟩
  | bool b => cases b <;> exact ⟨_, _, rfl, by decide⟩
  | number h =>
    obtain ⟨c, q, hcons, hc⟩ := exists_cons_of_isNumeral h
    obtain ⟨hspace, hspecial⟩ := not_special_of_numeral hc
    exact ⟨c, q, hcons, hspace, hspecial _ (by simp)⟩
  | string s => exact ⟨_, _, rfl, by decide⟩
  | @array js h =>
    cases js <;> exact ⟨_, _, rfl, by decide⟩
  | @object ms hk h =>
    cases ms <;> exact ⟨_, _, rfl, by decide⟩

/-- A numeral is read up to its end. -/
theorem readLeaf_number {s : List Char} (h : IsNumeral s) {r : List Char}
    (hr : Numeral.Ends r) : readLeaf (s ++ r) = some (.number s, r) := by
  obtain ⟨c, q, hcons, hc⟩ := exists_cons_of_isNumeral h
  -- A leaf is told by its first character, and the three words start with letters.
  have hspecial := (not_special_of_numeral hc).2
  have hn : c ≠ 'n' := hspecial _ (by simp)
  have ht : c ≠ 't' := hspecial _ (by simp)
  have hf : c ≠ 'f' := hspecial _ (by simp)
  obtain ⟨n, hwell, rfl⟩ := h
  have hspan := Numeral.span_spelling hwell hr
  rw [hcons, List.cons_append] at hspan ⊢
  rw [readLeaf, if_neg hn, if_neg ht, if_neg hf, hspan, ← hcons]
  rfl

/-- An escaped text is read up to its closing quote. -/
theorem readSpelling_escape (s r : List Char) :
    readSpelling (escape s ++ '"' :: r) = some (escape s, r) := by
  rw [readSpelling, spanString_escape, Option.bind_some]
  exact if_pos (isSpelling_escape s)

/-- A key is read up to its colon. -/
theorem readKey_inQuotes (s r : List Char) :
    readKey (inQuotes (escape s) ++ ':' :: r) = some (escape s, r) := by
  have hspelling := readSpelling_escape s (':' :: r)
  simp [readKey, inQuotes, skipSpace_cons, isSpace, hspelling]

theorem readKey_newLine (depth : Nat) (s : List Char) :
    readKey (newLine depth ++ s) = readKey s := by
  rw [readKey, readKey, skipSpace_newLine]

/-! ### Whole values -/

/-- A value is read from the front of any text that it was written to, at any depth, with as
much fuel as it has characters. -/
def ReadsBack (j : Json) : Prop :=
  ∀ depth fuel r, Numeral.Ends r → (renderAt depth j).length ≤ fuel →
    readValue fuel (renderAt depth j ++ r) = some (j, r)

/-- The items of an array after the first are read one by one. -/
theorem readItems_renderItems {js : List Json} (h : ∀ j ∈ js, ReadsBack j) (depth fuel : Nat)
    (r : List Char) (hfuel : (renderItems depth js).length ≤ fuel) :
    readItems fuel (renderItems depth js ++ r) = some (js, r) := by
  induction js generalizing fuel with
  | nil =>
    obtain ⟨fuel, rfl⟩ : ∃ f, fuel = f + 1 := ⟨fuel - 1, by simp [renderItems] at hfuel; omega⟩
    rw [renderItems, List.append_assoc, readItems, skipSpace_newLine]
    rfl
  | cons j js ih =>
    rw [renderItems] at hfuel ⊢
    simp only [List.cons_append, List.append_assoc, List.length_cons, List.length_append]
      at hfuel ⊢
    obtain ⟨fuel, rfl⟩ : ∃ f, fuel = f + 1 := ⟨fuel - 1, by omega⟩
    -- The comma takes one unit of fuel, and the texts after it are shorter by one character.
    have hitem := h j List.mem_cons_self (depth + 1) fuel (renderItems depth js ++ r)
      (ends_renderItems depth js r) (by omega)
    have hrest := ih (fun k hk => h k (List.mem_cons_of_mem j hk)) fuel (by omega)
    simp [readItems, skipSpace_cons, isSpace, readValue_newLine, hitem, hrest]

/-- The members of an object after the first are read one by one. -/
theorem readMembers_renderMembers {ms : List (List Char × Json)}
    (hkeys : ∀ m ∈ ms, ∃ s, m.1 = escape s) (h : ∀ m ∈ ms, ReadsBack m.2) (depth fuel : Nat)
    (r : List Char) (hfuel : (renderMembers depth ms).length ≤ fuel) :
    readMembers fuel (renderMembers depth ms ++ r) = some (ms, r) := by
  induction ms generalizing fuel with
  | nil =>
    obtain ⟨fuel, rfl⟩ : ∃ f, fuel = f + 1 := ⟨fuel - 1, by simp [renderMembers] at hfuel; omega⟩
    rw [renderMembers, List.append_assoc, readMembers, skipSpace_newLine]
    rfl
  | cons m ms ih =>
    obtain ⟨k, j⟩ := m
    obtain ⟨key, rfl⟩ := hkeys _ List.mem_cons_self
    rw [renderMembers] at hfuel ⊢
    simp only [List.cons_append, List.append_assoc, List.length_cons, List.length_append]
      at hfuel ⊢
    -- Each member takes one unit of fuel and writes at least one character.
    obtain ⟨fuel, rfl⟩ : ∃ f, fuel = f + 1 := ⟨fuel - 1, by omega⟩
    have hvalue := h _ List.mem_cons_self (depth + 1) fuel (renderMembers depth ms ++ r)
      (ends_renderMembers depth ms r) (by simp only; omega)
    have hrest := ih (fun m hm => hkeys m (List.mem_cons_of_mem _ hm))
      (fun m hm => h m (List.mem_cons_of_mem _ hm)) fuel (by omega)
    simp [readMembers, skipSpace_cons, isSpace, readKey_newLine, readKey_inQuotes,
      readValue_space, hvalue, hrest]

/-- A list is read back if its items are. -/
theorem readsBack_array {js : List Json} (hw : ∀ j ∈ js, Written j) (h : ∀ j ∈ js, ReadsBack j) :
    ReadsBack (.array js) := by
  intro depth fuel r hr hfuel
  cases js with
  | nil =>
    obtain ⟨fuel, rfl⟩ : ∃ f, fuel = f + 1 := ⟨fuel - 1, by simp [renderAt] at hfuel; omega⟩
    rfl
  | cons j js =>
    rw [renderAt] at hfuel ⊢
    simp only [List.cons_append, List.append_assoc, List.length_cons, List.length_append]
      at hfuel ⊢
    obtain ⟨fuel, rfl⟩ : ∃ f, fuel = f + 1 := ⟨fuel - 1, by omega⟩
    have hitem := h j List.mem_cons_self (depth + 1) fuel (renderItems depth js ++ r)
      (ends_renderItems depth js r) (by omega)
    have hrest := readItems_renderItems (fun k hk => h k (List.mem_cons_of_mem j hk)) depth fuel r
      (by omega)
    -- The first item does not look like the closing bracket.
    obtain ⟨c, q, hcons, hspace, hbracket⟩ :=
      exists_cons_of_written (hw j List.mem_cons_self) (depth + 1)
    rw [hcons, List.cons_append] at hitem ⊢
    simp [readValue, skipSpace_newLine, skipSpace_cons hspace, hbracket, hitem, hrest,
      skipSpace_cons (show isSpace '[' = false by rfl)]

/-- An object is read back if its keys are escaped texts and its values are read back. -/
theorem readsBack_object {ms : List (List Char × Json)} (hkeys : ∀ m ∈ ms, ∃ s, m.1 = escape s)
    (h : ∀ m ∈ ms, ReadsBack m.2) : ReadsBack (.object ms) := by
  intro depth fuel r hr hfuel
  cases ms with
  | nil =>
    obtain ⟨fuel, rfl⟩ : ∃ f, fuel = f + 1 := ⟨fuel - 1, by simp [renderAt] at hfuel; omega⟩
    rfl
  | cons m ms =>
    obtain ⟨k, j⟩ := m
    obtain ⟨key, rfl⟩ := hkeys _ List.mem_cons_self
    rw [renderAt] at hfuel ⊢
    simp only [List.cons_append, List.append_assoc, List.length_cons, List.length_append]
      at hfuel ⊢
    obtain ⟨fuel, rfl⟩ : ∃ f, fuel = f + 1 := ⟨fuel - 1, by omega⟩
    -- The first member stands without a comma, so `readMembers` sees only the others.
    have hkey := readKey_inQuotes key (' ' :: (renderAt (depth + 1) j ++
      (renderMembers depth ms ++ r)))
    simp only [inQuotes, List.cons_append, List.append_assoc, List.nil_append] at hkey ⊢
    have hvalue := h _ List.mem_cons_self (depth + 1) fuel (renderMembers depth ms ++ r)
      (ends_renderMembers depth ms r) (by simp only; omega)
    have hrest := readMembers_renderMembers (fun m hm => hkeys m (List.mem_cons_of_mem _ hm))
      (fun m hm => h m (List.mem_cons_of_mem _ hm)) depth fuel r (by omega)
    simp [readValue, skipSpace_cons, isSpace, skipSpace_newLine, hkey, readValue_space, hvalue,
      hrest]

/-- A written value is read from the front of a text. -/
theorem readsBack {j : Json} (h : Written j) : ReadsBack j := by
  -- The induction is on what the value is made of; lists of items and members have their own.
  induction h with
  | null =>
    intro depth fuel r hr hfuel
    obtain ⟨fuel, rfl⟩ : ∃ f, fuel = f + 1 := ⟨fuel - 1, by simp [renderAt] at hfuel; omega⟩
    rfl
  | bool b =>
    intro depth fuel r hr hfuel
    obtain ⟨fuel, rfl⟩ : ∃ f, fuel = f + 1 :=
      ⟨fuel - 1, by cases b <;> simp [renderAt] at hfuel <;> omega⟩
    cases b <;> rfl
  | number h =>
    intro depth fuel r hr hfuel
    have hleaf := readLeaf_number h hr
    obtain ⟨c, q, hcons, hc⟩ := exists_cons_of_isNumeral h
    obtain ⟨hspace, hspecial⟩ := not_special_of_numeral hc
    rw [renderAt] at hfuel ⊢
    obtain ⟨fuel, rfl⟩ : ∃ f, fuel = f + 1 := ⟨fuel - 1, by simp [hcons] at hfuel; omega⟩
    -- The first character is none that starts another kind of value.
    rw [hcons, List.cons_append] at hleaf ⊢
    rw [readValue, skipSpace_cons hspace]
    simp [hspecial '"' (by simp), hspecial '[' (by simp), hspecial '\x7b' (by simp), hleaf]
  | string s =>
    intro depth fuel r hr hfuel
    obtain ⟨fuel, rfl⟩ : ∃ f, fuel = f + 1 :=
      ⟨fuel - 1, by simp [renderAt, inQuotes] at hfuel; omega⟩
    have hspelling := readSpelling_escape s r
    simp [readValue, renderAt, inQuotes, skipSpace_cons, isSpace, hspelling]
  | array hw ih => exact readsBack_array hw ih
  | object hkeys _ ih => exact readsBack_object hkeys ih

/-- The text of a written value is read as that value. -/
theorem read_render {j : Json} (h : Written j) : read j.render = some j := by
  have hvalue := readsBack h 0 ((renderAt 0 j).length + 1) [] (fun c q h => nomatch h)
    (Nat.le_succ _)
  rw [List.append_nil] at hvalue
  rw [read, render, hvalue]
  rfl

end VocalScore.Json
