/-!
# Characters, trimming, lines and fields

The scanners of this library work on `List Char`; a `String` is opened with `toList` where
text enters and closed with `String.ofList` where it is stored.

* `isBlank`, `trim`: white space is the `White_Space` class of the Unicode standard;
* `lines`: a line ends at a newline, and a carriage return just before it goes with it;
* `splitOn`, `splitOnce`, `splitThree`: fields between occurrences of one character.

The lemmas say what each scanner does to its input: `lines_append` cuts a text at the end of
a line, `join_splitOn` puts the fields together again, and `splitOnce_eq_some` describes the
first occurrence of the separator.
-/

namespace VocalScore.Text

/-- The characters with the Unicode property `White_Space`. -/
def isBlank (c : Char) : Bool :=
  let n := c.toNat
  (9 ≤ n && n ≤ 13) || n == 0x20 || n == 0x85 || n == 0xA0 || n == 0x1680
    || (0x2000 ≤ n && n ≤ 0x200A) || n == 0x2028 || n == 0x2029 || n == 0x202F
    || n == 0x205F || n == 0x3000

/-- Drop white space at the front. -/
def trimStart (s : List Char) : List Char := s.dropWhile isBlank

/-- Drop white space at the back. -/
def trimEnd (s : List Char) : List Char := (s.reverse.dropWhile isBlank).reverse

/-- Drop white space on both sides. -/
def trim (s : List Char) : List Char := trimEnd (trimStart s)

/-- The trimmed text of a string. -/
def trimmed (s : String) : String := String.ofList (trim s.toList)

/-- A string that holds nothing but white space. -/
def blank (s : String) : Bool := s.toList.all isBlank

/-- A text is blank if trimming leaves nothing. -/
theorem all_isBlank_iff_trimStart (s : List Char) :
    s.all isBlank = true ↔ trimStart s = [] := by
  induction s with
  | nil => simp [trimStart]
  | cons c r ih =>
    cases hc : isBlank c with
    | false => simp [trimStart, hc]
    | true => rw [List.all_cons, hc, Bool.true_and, ih, trimStart, trimStart,
        List.dropWhile_cons_of_pos hc]

/-- What is left after dropping white space does not start with any. -/
theorem isBlank_of_trimStart {s r : List Char} {c : Char} (h : trimStart s = c :: r) :
    isBlank c = false := by
  have := List.head?_dropWhile_not isBlank s
  simp only [trimStart] at h
  rw [h] at this
  simpa using this

/-- Text is blank exactly when nothing is left after trimming. -/
theorem all_isBlank_iff_trim (s : List Char) : s.all isBlank = true ↔ trim s = [] := by
  rw [all_isBlank_iff_trimStart]
  constructor
  · intro h; simp [trim, h, trimEnd]
  · intro h
    cases hs : trimStart s with
    | nil => rfl
    | cons c r =>
      have h0 : trimStart (c :: r).reverse = [] := by
        rw [trim, hs, trimEnd, List.reverse_eq_nil_iff] at h
        exact h
      have := (all_isBlank_iff_trimStart _).2 h0
      simp [isBlank_of_trimStart hs] at this

/-! ### Lines -/

/-- The lines of a text. A newline ends a line, together with one carriage return before it;
what follows the last newline is a line of its own unless it is empty. -/
def lines : List Char → List (List Char)
  | [] => []
  | c :: r =>
    if c = '\n' then [] :: lines r
    else if c = '\r' ∧ r.head? = some '\n' then lines r
    else match lines r with
      | [] => [[c]]
      | l :: ls => (c :: l) :: ls

@[simp] theorem lines_nil : lines [] = [] := rfl

@[simp] theorem lines_newline (r : List Char) : lines ('\n' :: r) = [] :: lines r := by
  simp [lines]

/-- Only the empty text has no lines. -/
theorem lines_ne_nil {s : List Char} (h : s ≠ []) : lines s ≠ [] := by
  induction s with
  | nil => exact absurd rfl h
  | cons c r ih =>
    simp only [lines]
    split
    · simp
    · split
      next hc => exact ih (by rintro rfl; simp at hc)
      next => split <;> simp

/-- A text that is empty or ends with a newline can be read apart from what follows it. -/
theorem lines_append (s t : List Char) (h : s = [] ∨ s.getLast? = some '\n') :
    lines (s ++ t) = lines s ++ lines t := by
  induction s with
  | nil => simp
  | cons c r ih =>
    have hr : r = [] ∧ c = '\n' ∨ r ≠ [] ∧ r.getLast? = some '\n' := by
      cases r with
      | nil => simpa using h
      | cons d q => right; simpa [List.getLast?_cons_cons] using h
    rcases hr with ⟨rfl, rfl⟩ | ⟨hne, hr⟩
    · simp [lines]
    · have ih := ih (Or.inr hr)
      -- A carriage return looks at the next character only, which is not in `t`.
      have hh : (r ++ t).head? = r.head? := by
        cases r with
        | nil => exact absurd rfl hne
        | cons d q => rfl
      have hl : lines r ≠ [] := lines_ne_nil hne
      simp only [List.cons_append, lines, hh, ih]
      split
      · simp
      · split
        · rfl
        · cases hle : lines r with
          | nil => exact absurd hle hl
          | cons l ls => simp

/-! ### Fields -/

/-- The fields of a text between occurrences of `d`; there is always one more field than
there are separators. -/
def splitOn (d : Char) : List Char → List (List Char)
  | [] => [[]]
  | c :: r =>
    if c = d then [] :: splitOn d r
    else match splitOn d r with
      | [] => [[c]]
      | f :: fs => (c :: f) :: fs

/-- A text has at least one part. -/
theorem splitOn_ne_nil (d : Char) (s : List Char) : splitOn d s ≠ [] := by
  cases s with
  | nil => simp [splitOn]
  | cons c r =>
    simp only [splitOn]
    split
    · simp
    · split <;> simp

/-- One more field than separators. -/
theorem length_splitOn (d : Char) (s : List Char) :
    (splitOn d s).length = s.count d + 1 := by
  induction s with
  | nil => simp [splitOn]
  | cons c r ih =>
    simp only [splitOn]
    split
    next h => subst h; simp [ih]
    next h =>
      have h1 : (c == d) = false := by simpa using h
      cases hs : splitOn d r with
      | nil => exact absurd hs (splitOn_ne_nil d r)
      | cons f fs => rw [hs] at ih; simpa [List.count_cons, h1] using ih

/-- Text without the separator is one field. -/
theorem splitOn_of_not_mem {d : Char} {s : List Char} (h : d ∉ s) : splitOn d s = [s] := by
  induction s with
  | nil => rfl
  | cons c r ih =>
    simp only [List.mem_cons, not_or] at h
    simp [splitOn, Ne.symm h.1, ih h.2]

/-- A field without the separator, then the separator, splits off in front. -/
theorem splitOn_append {d : Char} {s : List Char} (h : d ∉ s) (t : List Char) :
    splitOn d (s ++ d :: t) = s :: splitOn d t := by
  induction s with
  | nil => simp [splitOn]
  | cons c r ih =>
    simp only [List.mem_cons, not_or] at h
    simp [splitOn, Ne.symm h.1, ih h.2]

/-- Cut a text at the first occurrence of `d`, which belongs to neither side. -/
def splitOnce (d : Char) : List Char → Option (List Char × List Char)
  | [] => none
  | c :: r => if c = d then some ([], r) else (splitOnce d r).map fun (a, b) => (c :: a, b)

/-- A text is cut at its first delimiter. -/
theorem splitOnce_append {d : Char} {s : List Char} (h : d ∉ s) (t : List Char) :
    splitOnce d (s ++ d :: t) = some (s, t) := by
  induction s with
  | nil => simp [splitOnce]
  | cons c r ih =>
    simp only [List.mem_cons, not_or] at h
    simp [splitOnce, Ne.symm h.1, ih h.2]

/-- The cut is at the first occurrence. -/
theorem splitOnce_eq_some {d : Char} {s a b : List Char} :
    splitOnce d s = some (a, b) ↔ s = a ++ d :: b ∧ d ∉ a := by
  constructor
  · intro h
    induction s generalizing a with
    | nil => simp [splitOnce] at h
    | cons c r ih =>
      simp only [splitOnce] at h
      split at h
      next hc => simp only [Option.some.injEq, Prod.mk.injEq] at h; simp [← h.1, ← h.2, hc]
      next hc =>
        obtain ⟨⟨a', b'⟩, hab, he⟩ := Option.map_eq_some_iff.1 h
        simp only [Prod.mk.injEq] at he
        obtain ⟨rfl, rfl⟩ := he
        obtain ⟨rfl, hn⟩ := ih hab
        exact ⟨rfl, by simp [Ne.symm hc, hn]⟩
  · rintro ⟨rfl, h⟩
    exact splitOnce_append h b

/-- A text without the delimiter is not cut. -/
theorem splitOnce_eq_none {d : Char} {s : List Char} : splitOnce d s = none ↔ d ∉ s := by
  induction s with
  | nil => simp [splitOnce]
  | cons c r ih =>
    simp only [splitOnce]
    split
    next h => simp [h]
    next h => simp [ih, Ne.symm h]

/-- Cut a text at the first two occurrences of `d`; later ones stay in the third field. -/
def splitThree (d : Char) (s : List Char) : Option (List Char × List Char × List Char) :=
  match splitOnce d s with
  | none => none
  | some (a, r) => (splitOnce d r).map fun (b, c) => (a, b, c)

/-! ### Marks and occurrences -/

/-- Drop one byte order mark at the front. -/
def dropMark : List Char → List Char
  | [] => []
  | c :: r => if c = '\uFEFF' then r else c :: r

/-- Whether `w` occurs somewhere in the text. -/
def occurs (w : List Char) : List Char → Bool
  | [] => w.isEmpty
  | c :: r => w.isPrefixOf (c :: r) || occurs w r

/-- Put a separator between texts. -/
def joinWith (d : List Char) : List (List Char) → List Char
  | [] => []
  | [s] => s
  | s :: t :: r => s ++ d ++ joinWith d (t :: r)

/-- Joining the fields of a text with its separator gives the text back. -/
theorem joinWith_splitOn (d : Char) (s : List Char) : joinWith [d] (splitOn d s) = s := by
  induction s with
  | nil => rfl
  | cons c r ih =>
    simp only [splitOn]
    split
    next h =>
      cases hs : splitOn d r with
      | nil => exact absurd hs (splitOn_ne_nil d r)
      | cons f fs => rw [hs] at ih; simp [joinWith, ih, h]
    next h =>
      cases hs : splitOn d r with
      | nil => exact absurd hs (splitOn_ne_nil d r)
      | cons f fs =>
        rw [hs] at ih
        cases fs with
        | nil => simpa [joinWith] using ih
        | cons g gs => simpa [joinWith] using ih

/-- The lower case of an ASCII letter; any other character is kept. -/
def lowerAscii (s : String) : String := String.ofList (s.toList.map Char.toLower)

end VocalScore.Text
