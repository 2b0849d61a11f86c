import VocalScore.Encoding.Declared
import VocalScore.Proofs.Encoding.Utf8
import VocalScore.Proofs.Text.Occurrence
import VocalScore.Proofs.Text.Scanning

/-!
# When the declared encoding is final

The declaration of an encoding is looked for in a window of leading bytes. A window that ends
within the declaring line sees a part of the label only, and what it reads there need not be what
the whole line declares (`declared?_of_cut_line`). Once the declaring line has ended in the window,
more bytes change nothing.

## Key results

- `isSome_declared?_iff`: a window declares an encoding exactly if the key occurs in its text
- `declared?_of_ended_line`: bytes after the end of a declaring line do not count
- `declared?_final`: a declaration stays found, and stays as it is once its line has ended
-/

namespace VocalScore.Encoding

/-- A window declares an encoding exactly if the key occurs in its text. -/
theorem isSome_declared?_iff (bytes : List UInt8) (n : Nat) :
    (declared? bytes n).isSome = true ↔ declarationKey <:+: Utf8.decode (bytes.take n) := by
  have hlines := Text.infix_iff_exists_line (w := declarationKey) (s := Utf8.decode (bytes.take n))
    (by decide) (by decide) (by decide)
  rw [hlines, declared?]
  constructor
  · intro h
    obtain ⟨label, hlabel⟩ := Option.isSome_iff_exists.1 h
    obtain ⟨line, hfind, -⟩ := Option.bind_eq_some_iff.1 hlabel
    exact ⟨line, List.mem_of_find?_eq_some hfind, Text.occurs_iff_infix.1 (List.find?_some hfind)⟩
  · rintro ⟨line, hmem, hkey⟩
    -- Some line is found, and the key that it has brings the separator along.
    cases hfind : (Text.lines (Utf8.decode (bytes.take n))).find? (Text.occurs declarationKey) with
    | none =>
      have hnone := List.find?_eq_none.1 hfind line hmem
      exact absurd (Text.occurs_iff_infix.2 hkey) hnone
    | some found =>
      have hfound := Text.occurs_iff_infix.1 (List.find?_some hfind)
      cases hsplit : Text.splitOnce '=' found with
      | none => exact absurd (hfound.subset (by decide)) (Text.splitOnce_eq_none.1 hsplit)
      | some parts => rw [Option.bind_some, hsplit]; rfl

/-- A window keeps the declarations of a smaller one, though not always their labels. -/
theorem isSome_declared?_mono {bytes : List UInt8} {n m : Nat} (h : n ≤ m)
    (hn : (declared? bytes n).isSome = true) : (declared? bytes m).isSome = true := by
  rw [isSome_declared?_iff] at hn ⊢
  obtain ⟨t, ht⟩ := List.take_prefix_take_left h (l := bytes)
  obtain ⟨cs, hcs, hwritten⟩ := Utf8.exists_written (bytes.take n)
  rw [← ht]
  refine List.IsInfix.trans ?_ (hwritten t).isInfix
  rcases hcs with hcs | hcs
  · rwa [hcs] at hn
  · -- The key has no replacement character, so it ends before that one.
    rw [hcs, List.infix_concat_iff] at hn
    refine hn.resolve_left fun hsuffix => ?_
    rcases List.suffix_concat_iff.1 hsuffix with hnil | ⟨key, hkey, -⟩
    · exact absurd hnil (by decide)
    · have hmem : Utf8.replacement ∈ declarationKey := by
        rw [hkey]
        exact List.mem_append_right key List.mem_cons_self
      exact absurd hmem (by decide)

/-- The declaring line of a window has ended: a newline in the window comes after a declaration, or
the window holds all bytes. -/
def LineEnded (bytes : List UInt8) (n : Nat) : Prop :=
  bytes.length ≤ n ∨
    ∃ k ≤ n, (bytes.take k).getLast? = some 0x0A ∧ (declared? bytes k).isSome = true

/-- Bytes after the end of a declaring line do not count. -/
theorem declared?_of_ended_line {bytes : List UInt8} {k n : Nat} (hkn : k ≤ n)
    (hnewline : (bytes.take k).getLast? = some 0x0A) (hk : (declared? bytes k).isSome = true) :
    declared? bytes n = declared? bytes k := by
  obtain ⟨t, ht⟩ := List.take_prefix_take_left hkn (l := bytes)
  obtain ⟨s, hs⟩ := List.getLast?_eq_some_iff.1 hnewline
  -- The text up to the newline is read apart from the rest, and so are its lines.
  have hshort : Utf8.decode (bytes.take k) = Utf8.decode s ++ ['\n'] := by
    rw [hs, Utf8.decode_append_newline]
    rfl
  have hlong : Utf8.decode (bytes.take n) = Utf8.decode (bytes.take k) ++ Utf8.decode t := by
    rw [hshort, ← ht, hs, List.append_assoc, List.singleton_append, Utf8.decode_append_newline,
      List.append_assoc, List.singleton_append]
  have hends : (Utf8.decode (bytes.take k)).getLast? = some '\n' := by
    rw [hshort, List.getLast?_concat]
  rw [declared?, Option.isSome_bind] at hk
  rw [declared?, declared?, hlong, Text.lines_append _ _ (Or.inr hends), List.find?_append,
    Option.or_of_isSome (Option.isSome_of_any hk)]

/-- A window that goes past the end of the declaring line declares what the smaller one does. -/
theorem declared?_of_lineEnded {bytes : List UInt8} {n m : Nat} (hnm : n ≤ m)
    (h : LineEnded bytes n) : declared? bytes m = declared? bytes n := by
  rcases h with hall | ⟨k, hkn, hnewline, hk⟩
  · rw [declared?, declared?, List.take_of_length_le hall,
      List.take_of_length_le (Nat.le_trans hall hnm)]
  · rw [declared?_of_ended_line hkn hnewline hk,
      declared?_of_ended_line (Nat.le_trans hkn hnm) hnewline hk]

/-- A larger window keeps the declaration that a smaller one found, and once the declaring line has
ended in the smaller one, the label and the encoding are final. -/
theorem declared?_final (bytes : List UInt8) {n m : Nat} (hnm : n ≤ m) :
    ((declared? bytes n).isSome = true → (declared? bytes m).isSome = true) ∧
    (LineEnded bytes n → declared? bytes m = declared? bytes n ∧
      ∀ fallback, detect bytes m fallback = detect bytes n fallback) := by
  refine ⟨isSome_declared?_mono hnm, fun h => ?_⟩
  have hfinal := declared?_of_lineEnded hnm h
  refine ⟨hfinal, fun fallback => ?_⟩
  rw [detect, detect, hfinal]

/-- The declaring line ends in the window, with another one after it. -/
theorem declared?_final_after_newline :
    declared? (Utf8.encode "Charset=utf8\nCharset=cp932\n".toList) 20 = some "utf8".toList := by
  have hended : LineEnded (Utf8.encode "Charset=utf8\nCharset=cp932\n".toList) 13 :=
    Or.inr ⟨13, Nat.le_refl 13, by decide +kernel, by decide +kernel⟩
  rw [((declared?_final _ (n := 13) (m := 20) (by decide)).2 hended).1]
  decide +kernel

/-- A comment and a declaring line, which the default window cuts right after its key. -/
def cutDeclaration : List UInt8 :=
  Utf8.encode (List.replicate 247 ';' ++ "\nCharset=Shift_JIS\n".toList)

/-- A window that ends within the declaring line can see an empty label, which means UTF-8, where
the whole line declares another encoding, even the one that would be taken without a declaration. -/
theorem declared?_of_cut_line :
    declared? cutDeclaration defaultWindow = some [] ∧
    declared? cutDeclaration 266 = some "Shift_JIS".toList ∧
    detect cutDeclaration defaultWindow legacy = .ok .utf8 ∧
    detect cutDeclaration 266 legacy = .ok .shiftJis := by
  refine ⟨?_, ?_, ?_, ?_⟩ <;> decide +kernel

end VocalScore.Encoding
