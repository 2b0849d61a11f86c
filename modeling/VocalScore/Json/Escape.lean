import VocalScore.Encoding.Utf16
import VocalScore.Text.Quoted

/-!
# Strings of a JSON text

Between its quotes a string is spelled with escapes. `escape` writes a text, `units?` reads a
spelling into characters and numbered units, and `unescape?` puts the units together, where
two halves of a surrogate pair make one character and a half on its own makes none. A spelling
may thus be well formed and still have no text.

`unescape?_escape` says that every text comes back from its spelling.
-/

namespace VocalScore.Json

/-- One character of a string. -/
def escapeChar (c : Char) : List Char :=
  if c = '"' then ['\\', '"']
  else if c = '\\' then ['\\', '\\']
  else if c = '\x08' then ['\\', 'b']
  else if c = '\t' then ['\\', 't']
  else if c = '\n' then ['\\', 'n']
  else if c = '\x0c' then ['\\', 'f']
  else if c = '\r' then ['\\', 'r']
  else if c.toNat < 32 then
    ['\\', 'u', '0', '0', Text.digitChar (c.toNat / 16), Text.digitChar (c.toNat % 16)]
  else [c]

/-- The spelling of a text. -/
def escape (s : List Char) : List Char := s.flatMap escapeChar

/-- A piece of a spelled string. -/
inductive TextUnit where
  /-- A character as it is, or by a letter. -/
  | char (c : Char)
  /-- A unit of UTF-16 by its number. -/
  | code (n : Nat)
  deriving DecidableEq, Repr

/-- The character that a letter after a backslash stands for. -/
def escapeLetter? (c : Char) : Option Char :=
  if c = '"' ∨ c = '\\' ∨ c = '/' then some c
  else if c = 'b' then some '\x08'
  else if c = 'f' then some '\x0c'
  else if c = 'n' then some '\n'
  else if c = 'r' then some '\r'
  else if c = 't' then some '\t'
  else none

/-- Read a spelling piece by piece. -/
def units? : List Char → Option (List TextUnit)
  | [] => some []
  | c :: r =>
    if c ≠ '\\' then (units? r).map (.char c :: ·)
    else match r with
      | [] => none
      | e :: r =>
        if e ≠ 'u' then
          -- A letter stands for itself or for a control character.
          match escapeLetter? e with
          | some x => (units? r).map (.char x :: ·)
          | none => none
        else match r with
          | a :: b :: c :: d :: r =>
            match Text.hexNumber? [a, b, c, d] with
            | some n => (units? r).map (.code n :: ·)
            | none => none
          | _ => none

/-- The text of a row of pieces. -/
def textOfUnits? : List TextUnit → Option (List Char)
  | [] => some []
  | .char c :: r => (textOfUnits? r).map (c :: ·)
  | .code n :: r =>
    -- The other half has to follow as a code too, not as a character.
    if Utf16.isHigh n then
      match r with
      | .code m :: r =>
        if Utf16.isLow m then
          (textOfUnits? r).map (Char.ofNat (0x10000 + (n - 0xD800) * 1024 + (m - 0xDC00)) :: ·)
        else none
      | _ => none
    else if Utf16.isLow n then none
    else (textOfUnits? r).map (Char.ofNat n :: ·)

/-- The text that is spelled. -/
def unescape? (s : List Char) : Option (List Char) := (units? s).bind textOfUnits?

/-- Whether a text is a well formed spelling of a string. -/
def isSpelling (s : List Char) : Bool := (units? s).isSome

/-- Split off a string whose opening quote has been read. Control characters have to be
escaped. -/
def spanString : List Char → Option (List Char × List Char)
  | [] => none
  | c :: r =>
    if c = '"' then some ([], r)
    else if c.toNat < 32 then none
    else if c = '\\' then
      -- Whatever is escaped, a quote too, does not end the string.
      match r with
      | [] => none
      | e :: r => (spanString r).map fun (s, r) => (c :: e :: s, r)
    else (spanString r).map fun (s, r) => (c :: s, r)

/-- The piece that the spelling of a character reads as. -/
def unitOf (c : Char) : TextUnit :=
  if c.toNat < 32 ∧ c ∉ ['\x08', '\t', '\n', '\x0c', '\r'] then .code c.toNat else .char c

/-- A control character is below 32, so its code has two digits. -/
private theorem hexNumber?_control {n : Nat} (h : n < 32) :
    Text.hexNumber? ['0', '0', Text.digitChar (n / 16), Text.digitChar (n % 16)] = some n := by
  have h0 : Text.hexValue? '0' = some 0 := by decide
  simp only [Text.hexNumber?, List.mapM_cons, List.mapM_nil, h0, Text.hexValue?_digitChar _
    (show n / 16 < 16 by omega), Text.hexValue?_digitChar _ (show n % 16 < 16 by omega)]
  simp
  omega

private theorem units?_cons {c : Char} (h : c ≠ '\\') (r : List Char) :
    units? (c :: r) = (units? r).map (.char c :: ·) := by
  rw [units?.eq_def]; simp [h]

private theorem units?_letter {e x : Char} (he : e ≠ 'u') (hx : escapeLetter? e = some x)
    (r : List Char) : units? ('\\' :: e :: r) = (units? r).map (.char x :: ·) := by
  rw [units?.eq_def]; simp [he, hx]

/-- A backslash, `u` and four digits stand for a code. -/
private theorem units?_code {a b c d : Char} {n : Nat} (h : Text.hexNumber? [a, b, c, d] = some n)
    (r : List Char) : units? ('\\' :: 'u' :: a :: b :: c :: d :: r)
      = (units? r).map (.code n :: ·) := by
  rw [units?.eq_def]; simp [h]

/-- An escaped character is one unit. -/
theorem units?_escapeChar (c : Char) (r : List Char) :
    units? (escapeChar c ++ r) = (units? r).map (unitOf c :: ·) := by
  by_cases h : c ∈ ['"', '\\', '\x08', '\t', '\n', '\x0c', '\r']
  · simp only [List.mem_cons, List.not_mem_nil, or_false] at h
    rcases h with rfl | rfl | rfl | rfl | rfl | rfl | rfl <;>
      exact units?_letter (by decide) (by decide) r
  · simp only [List.mem_cons, List.not_mem_nil, or_false, not_or] at h
    obtain ⟨h1, h2, h3, h4, h5, h6, h7⟩ := h
    by_cases hc : c.toNat < 32
    · simp [escapeChar, unitOf, h1, h2, h3, h4, h5, h6, h7, hc, units?_code (hexNumber?_control hc)]
    · simp [escapeChar, unitOf, h1, h2, h3, h4, h5, h6, h7, hc, units?_cons h2]

/-- An escaped text has a unit for each character. -/
theorem units?_escape (s : List Char) : units? (escape s) = some (s.map unitOf) := by
  induction s with
  | nil => rfl
  | cons c s ih =>
    show units? (escapeChar c ++ escape s) = _
    rw [units?_escapeChar, ih]
    rfl

theorem isSpelling_escape (s : List Char) : isSpelling (escape s) = true := by
  simp [isSpelling, units?_escape]

/-- The units of characters are no surrogates, so they stand for these characters. -/
private theorem textOfUnits?_map (s : List Char) : textOfUnits? (s.map unitOf) = some s := by
  induction s with
  | nil => rfl
  | cons c s ih =>
    simp only [List.map_cons, unitOf]
    split
    next h =>
      have hh : Utf16.isHigh c.toNat = false := by simp [Utf16.isHigh]; omega
      have hl : Utf16.isLow c.toNat = false := by simp [Utf16.isLow]; omega
      rw [textOfUnits?.eq_def]
      simp [hh, hl, ih]
    next => simp [textOfUnits?, ih]

/-- Every text comes back from its spelling. -/
theorem unescape?_escape (s : List Char) : unescape? (escape s) = some s := by
  simp [unescape?, units?_escape, textOfUnits?_map]

/-- A plain character does not end a string. -/
private theorem spanString_cons {c : Char} (h1 : c ≠ '"') (h2 : c ≠ '\\') (h3 : ¬ c.toNat < 32)
    (r : List Char) : spanString (c :: r) = (spanString r).map fun (s, r) => (c :: s, r) := by
  rw [spanString.eq_def]; simp [h1, h2, h3]

/-- A backslash keeps the next character from ending a string. -/
private theorem spanString_backslash (e : Char) (r : List Char) :
    spanString ('\\' :: e :: r) = (spanString r).map fun (s, r) => ('\\' :: e :: s, r) := by
  rw [spanString.eq_def]; simp

private theorem digitChar_plain : ∀ d < 16, Text.digitChar d ≠ '"' ∧ Text.digitChar d ≠ '\\'
    ∧ ¬ (Text.digitChar d).toNat < 32 := by decide

/-- An escaped character does not end a string. -/
private theorem spanString_escapeChar (c : Char) (r : List Char) :
    spanString (escapeChar c ++ r) = (spanString r).map fun (s, r) => (escapeChar c ++ s, r) := by
  by_cases h : c ∈ ['"', '\\', '\x08', '\t', '\n', '\x0c', '\r']
  · simp only [List.mem_cons, List.not_mem_nil, or_false] at h
    rcases h with rfl | rfl | rfl | rfl | rfl | rfl | rfl <;>
      exact spanString_backslash _ r
  · simp only [List.mem_cons, List.not_mem_nil, or_false, not_or] at h
    obtain ⟨h1, h2, h3, h4, h5, h6, h7⟩ := h
    -- A control character without a letter of its own is written as six plain characters.
    by_cases hc : c.toNat < 32
    · obtain ⟨a1, a2, a3⟩ := digitChar_plain (c.toNat / 16) (by omega)
      obtain ⟨b1, b2, b3⟩ := digitChar_plain (c.toNat % 16) (by omega)
      simp only [escapeChar, h1, h2, h3, h4, h5, h6, h7, hc, if_true, if_false, List.cons_append,
        List.nil_append]
      rw [spanString_backslash, spanString_cons (by decide) (by decide) (by decide),
        spanString_cons (by decide) (by decide) (by decide), spanString_cons a1 a2 a3,
        spanString_cons b1 b2 b3]
      simp [Function.comp_def]
    · simp [escapeChar, h1, h2, h3, h4, h5, h6, h7, hc, spanString_cons h1 h2 hc]

/-- A spelled text is split off at the quote that closes it. -/
theorem spanString_escape (s r : List Char) :
    spanString (escape s ++ '"' :: r) = some (escape s, r) := by
  induction s with
  | nil => rw [spanString.eq_def]; simp [escape]
  | cons c s ih =>
    show spanString ((escapeChar c ++ escape s) ++ '"' :: r) = some (escapeChar c ++ escape s, r)
    rw [List.append_assoc, spanString_escapeChar, ih]
    rfl

end VocalScore.Json
