import VocalScore.Proofs.Encoding.Declaration

/-!
# The label of a declaration

The declaring line is found by the key `Charset=`, but it is cut at its first `=`, which need not be
the one of the key. Only if no `=` comes before the key is the label what the key declares; else
everything after the first `=` is taken for the label, the key included.

## Key results

- `declared?_eq_none_iff`: nothing is declared exactly if no line has the key
- `exists_declares`: otherwise the key has a first occurrence
- `declared?_eq_label_iff`: when the label is the text after the key, and what it is instead
-/

namespace VocalScore.Encoding

/-- The first line with the key among the first `n` bytes, taken apart at the key. -/
structure Declares (bytes : List UInt8) (n : Nat) (before label : List Char) : Prop where
  exists_line : ∃ above line below,
    Text.lines (Utf8.decode (bytes.take n)) = above ++ line :: below ∧
    (∀ l ∈ above, ¬declarationKey <:+: l) ∧
    Text.FirstOccurrence declarationKey line before label

/-- The key does not occur in a line that it is no infix of. -/
theorem occurs_eq_false_iff {l : List Char} :
    Text.occurs declarationKey l = false ↔ ¬declarationKey <:+: l := by
  rw [← Bool.not_eq_true, Text.occurs_iff_infix]

/-- Nothing is declared exactly if no line has the key. -/
theorem declared?_eq_none_iff {bytes : List UInt8} {n : Nat} :
    declared? bytes n = none ↔
      ∀ line ∈ Text.lines (Utf8.decode (bytes.take n)), ¬declarationKey <:+: line := by
  rw [← Option.not_isSome_iff_eq_none, isSome_declared?_iff,
    Text.infix_iff_exists_line (by decide) (by decide) (by decide)]
  simp only [not_exists, not_and]

/-- A window that declares something has a declaring line. -/
theorem exists_declares {bytes : List UInt8} {n : Nat} (h : declared? bytes n ≠ none) :
    ∃ before label, Declares bytes n before label := by
  rw [declared?] at h
  cases hfind : (Text.lines (Utf8.decode (bytes.take n))).find? (Text.occurs declarationKey) with
  | none => rw [hfind] at h; exact absurd rfl h
  | some line =>
    -- The first line with the key, cut at the first occurrence of it.
    obtain ⟨hkey, above, below, hlines, habove⟩ := List.find?_eq_some_iff_append.1 hfind
    obtain ⟨before, label, hfirst⟩ := Text.exists_firstOccurrence (Text.occurs_iff_infix.1 hkey)
    refine ⟨before, label, above, line, below, hlines, fun l hl => ?_, hfirst⟩
    have hnot := habove l hl
    rwa [Bool.not_eq_true', occurs_eq_false_iff] at hnot

/-- The declaring line is cut at its first `=`. -/
theorem Declares.declared?_eq {bytes : List UInt8} {n : Nat} {before label : List Char}
    (h : Declares bytes n before label) :
    declared? bytes n =
      (Text.splitOnce '=' (before ++ declarationKey ++ label)).map fun p => Text.trim p.2 := by
  obtain ⟨above, line, below, hlines, habove, hfirst⟩ := h.exists_line
  have hkey : Text.occurs declarationKey line = true :=
    Text.occurs_iff_infix.2 ⟨before, label, hfirst.eq.symm⟩
  -- No line above has the key, so the search stops at this one.
  have hfind : (Text.lines (Utf8.decode (bytes.take n))).find? (Text.occurs declarationKey) =
      some line := by
    refine List.find?_eq_some_iff_append.2 ⟨hkey, above, below, hlines, fun l hl => ?_⟩
    rw [Bool.not_eq_true', occurs_eq_false_iff]
    exact habove l hl
  rw [declared?, hfind, Option.bind_some, ← hfirst.eq]

/-- Without a separator before the key, the separator of the key is the first one. -/
theorem splitOnce_declaration {before : List Char} (h : '=' ∉ before) (label : List Char) :
    Text.splitOnce '=' (before ++ declarationKey ++ label) =
      some (before ++ "Charset".toList, label) := by
  have hkey : before ++ declarationKey ++ label =
      (before ++ "Charset".toList) ++ '=' :: label := by
    rw [List.append_assoc, List.append_assoc]
    rfl
  -- The key ends in the sign that the line is cut at.
  have hnot : '=' ∉ before ++ "Charset".toList := by
    rw [List.mem_append, not_or]
    exact ⟨h, by decide⟩
  rw [hkey, Text.splitOnce_append hnot]

/-- A text with the key before it is longer, whatever white space is dropped. -/
theorem trim_declaration_ne (b label : List Char) :
    Text.trim (b ++ declarationKey ++ label) ≠ Text.trim label := by
  have hkey : b ++ declarationKey ++ label = b ++ 'C' :: ("harset".toList ++ '=' :: label) := by
    rw [List.append_assoc]
    rfl
  have htrim : Text.trim (b ++ declarationKey ++ label) =
      Text.trimStart b ++ 'C' :: ("harset".toList ++ '=' :: Text.trimEnd label) := by
    rw [hkey, Text.trim_append_cons (by decide), Text.trimEnd_append_cons (by decide)]
  -- The key stands between both ends of the text, so trimming leaves it there: lengths differ.
  have hle : (Text.trim label).length ≤ (Text.trimEnd label).length := by
    rw [← Text.trim_trimEnd]
    exact Text.length_trim_le _
  intro heq
  have hlength := congrArg List.length (htrim.symm.trans heq)
  simp only [List.length_append, List.length_cons] at hlength
  omega

/-- Nothing is declared exactly if no line has the key. Otherwise the first line that has it gives
the label: the text after the key, if no `=` comes before the key, and only then; else all the text
after the first `=`, which holds the key as well. -/
theorem declared?_eq_label_iff (bytes : List UInt8) (n : Nat) :
    (declared? bytes n = none ↔
      ∀ line ∈ Text.lines (Utf8.decode (bytes.take n)), ¬declarationKey <:+: line) ∧
    (declared? bytes n ≠ none → ∃ before label, Declares bytes n before label) ∧
    ∀ before label, Declares bytes n before label →
      (declared? bytes n = some (Text.trim label) ↔ '=' ∉ before) ∧
      ∀ a b, before = a ++ '=' :: b → '=' ∉ a →
        declared? bytes n = some (Text.trim (b ++ declarationKey ++ label)) := by
  refine ⟨declared?_eq_none_iff, exists_declares, fun before label h => ?_⟩
  -- With an `=` before the key the cut falls there, and the key stays in what is declared.
  have hcut : ∀ a b, before = a ++ '=' :: b → '=' ∉ a →
      declared? bytes n = some (Text.trim (b ++ declarationKey ++ label)) := by
    intro a b hbefore ha
    have hline : before ++ declarationKey ++ label =
        a ++ '=' :: (b ++ declarationKey ++ label) := by
      rw [hbefore, List.append_assoc, List.append_assoc, List.append_assoc, List.cons_append]
    rw [h.declared?_eq, hline, Text.splitOnce_append ha, Option.map_some]
  refine ⟨⟨fun hlabel hmem => ?_, fun hnot => ?_⟩, hcut⟩
  · obtain ⟨a, b, hbefore, ha⟩ := List.eq_append_cons_of_mem hmem
    rw [hcut a b hbefore ha] at hlabel
    exact trim_declaration_ne b label (Option.some.inj hlabel)
  · rw [h.declared?_eq, splitOnce_declaration hnot, Option.map_some]

/-- The key within the value of another one. -/
def nestedDeclaration : List UInt8 := Utf8.encode "ProjectName=a Charset=UTF-8\n".toList

/-- The key of this declaration stands behind another key of its line. -/
theorem declares_nestedDeclaration :
    Declares nestedDeclaration defaultWindow "ProjectName=a ".toList "UTF-8".toList :=
  ⟨[], "ProjectName=a Charset=UTF-8".toList, [], by decide +kernel, by decide, by decide +kernel⟩

/-- The line is cut at the `=` of the other key, so what is declared is more than the label. -/
theorem declared?_eq_label_nested :
    declared? nestedDeclaration defaultWindow =
      some (Text.trim ("a ".toList ++ declarationKey ++ "UTF-8".toList)) :=
  ((declared?_eq_label_iff nestedDeclaration defaultWindow).2.2 _ _ declares_nestedDeclaration).2
    "ProjectName".toList "a ".toList (by decide) (by decide)

/-- A declaration that stands in the value of another key is not found as such: its label is taken
to begin with that value, and no encoding has a label like that. -/
theorem declared?_of_nested_key :
    Declares nestedDeclaration defaultWindow "ProjectName=a ".toList "UTF-8".toList ∧
    declared? nestedDeclaration defaultWindow ≠ some (Text.trim "UTF-8".toList) ∧
    ofText? "UTF-8".toList = some .utf8 ∧
    detect nestedDeclaration defaultWindow legacy = .error "a Charset=UTF-8" := by
  refine ⟨declares_nestedDeclaration, ?_, ?_, ?_⟩ <;> decide +kernel

end VocalScore.Encoding
