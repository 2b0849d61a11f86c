import VocalScore.Encoding.Codec
import VocalScore.Voicebank.PitchName

/-!
# Prefix maps

A prefix map gives, for a pitch, the text to put before and after a lyric to find its sample.
Its file has a line for each pitch: the name of the pitch, the text before and the text after,
between delimiters. A delimiter in the last field belongs to it; a pitch that is repeated, under
whatever name, keeps its last line.

The entries are kept in the order of their pitches, which the type guarantees, so that two maps
with the same entries are equal (`PrefixMap.ext`). `get?_insert` is the law of insertion. A map is
written in an order that the options give, by a sort of its pitches.
-/

namespace VocalScore

/-- The text before and after a lyric. -/
structure Affix where
  before : String
  after : String
  deriving DecidableEq, Repr

/-- Put the text around a lyric. -/
def Affix.apply (a : Affix) (lyric : String) : String := a.before ++ lyric ++ a.after

/-- Pitches with the text around their lyrics, lowest pitch first. -/
structure PrefixMap where
  entries : List (UInt8 × Affix)
  sorted : entries.Pairwise fun a b => a.1 < b.1
  deriving DecidableEq

/-- How a prefix map is read and written. -/
structure PrefixMapOptions where
  /-- The encoding of the file. -/
  encoding : Encoding := .utf8
  /-- The character between fields. -/
  delimiter : Char := '\t'
  /-- Lines that start with this character, after white space, are passed over. -/
  comment : Option Char := some '#'
  /-- Whether accidentals are written as sharps. -/
  sharps : Bool := false
  /-- How octaves are counted. -/
  octaves : OctaveNumbering := .c0
  /-- The order in which pitches are written. -/
  order : UInt8 → UInt8 → Ordering := compare

/-- The order in which a higher pitch is written before a lower one. -/
def highestFirst (m n : UInt8) : Ordering := compare n m

/-- Whether a higher pitch is written before a lower one. -/
def PrefixMapOptions.descending (o : PrefixMapOptions) : Bool := o.order 0 1 == .gt

namespace PrefixMap

/-- A map without entries. -/
def empty : PrefixMap := ⟨[], .nil⟩

/-- Put an entry at its place in a sorted list; it replaces one of the same pitch. -/
def insertEntry (n : UInt8) (a : Affix) : List (UInt8 × Affix) → List (UInt8 × Affix)
  | [] => [(n, a)]
  | (m, b) :: r =>
    if n < m then (n, a) :: (m, b) :: r
    else if n = m then (n, a) :: r
    else (m, b) :: insertEntry n a r

/-- Inserting a binding adds no other one. -/
theorem mem_insertEntry {n : UInt8} {a : Affix} {l : List (UInt8 × Affix)} {e : UInt8 × Affix}
    (h : e ∈ insertEntry n a l) : e = (n, a) ∨ e ∈ l := by
  induction l with
  | nil => left; simpa [insertEntry] using h
  | cons x r ih =>
    obtain ⟨m, b⟩ := x
    simp only [insertEntry] at h
    split at h
    · simpa using h
    · split at h
      · rcases List.mem_cons.1 h with h | h
        · exact Or.inl h
        · exact Or.inr (List.mem_cons_of_mem _ h)
      · rcases List.mem_cons.1 h with h | h
        · exact Or.inr (h ▸ List.mem_cons_self)
        · rcases ih h with h | h
          · exact Or.inl h
          · exact Or.inr (List.mem_cons_of_mem _ h)

/-- Inserting a binding keeps the pitches in order. -/
theorem sorted_insertEntry (n : UInt8) (a : Affix) {l : List (UInt8 × Affix)}
    (h : l.Pairwise fun a b => a.1 < b.1) :
    (insertEntry n a l).Pairwise fun a b => a.1 < b.1 := by
  induction l with
  | nil => simp [insertEntry]
  | cons x r ih =>
    obtain ⟨m, b⟩ := x
    obtain ⟨hm, hr⟩ := List.pairwise_cons.1 h
    simp only [insertEntry]
    split
    next hlt =>
      -- The new entry is below the first, and so below all others.
      refine List.pairwise_cons.2 ⟨?_, h⟩
      intro e he
      rcases List.mem_cons.1 he with rfl | he
      · exact hlt
      · exact UInt8.lt_trans hlt (hm e he)
    next hge =>
      split
      next heq => subst heq; exact List.pairwise_cons.2 ⟨hm, hr⟩
      next hne =>
        -- The first entry stays below the rest, the new entry included.
        refine List.pairwise_cons.2 ⟨?_, ih hr⟩
        intro e he
        rcases mem_insertEntry he with rfl | he
        · have : m ≠ n := fun h => hne h.symm
          simp only [UInt8.lt_iff_toNat_lt, ← UInt8.toNat_inj, ne_eq] at *
          omega
        · exact hm e he

/-- Bind a pitch; an earlier binding of it is lost. -/
def insert (m : PrefixMap) (n : UInt8) (a : Affix) : PrefixMap :=
  ⟨insertEntry n a m.entries, sorted_insertEntry n a m.sorted⟩

/-- The binding of a pitch. -/
def get? (m : PrefixMap) (n : UInt8) : Option Affix :=
  (m.entries.find? (·.1 == n)).map (·.2)

/-- The map of a list of bindings, of which the last for a pitch counts. -/
def ofList (l : List (UInt8 × Affix)) : PrefixMap := l.foldl (fun m e => m.insert e.1 e.2) empty

/-- Maps with the same entries are equal. -/
theorem ext {m m' : PrefixMap} (h : m.entries = m'.entries) : m = m' := by
  cases m; cases m'; cases h; rfl

/-- The number of bindings. -/
def size (m : PrefixMap) : Nat := m.entries.length

@[simp] theorem get?_empty (n : UInt8) : empty.get? n = none := rfl

/-- The pitch of an inserted binding finds it, and other pitches find what they did. -/
private theorem find?_insertEntry (n : UInt8) (a : Affix) (l : List (UInt8 × Affix)) (k : UInt8)
    (h : l.Pairwise fun a b => a.1 < b.1) :
    (insertEntry n a l).find? (·.1 == k)
      = if n = k then some (n, a) else l.find? (·.1 == k) := by
  -- The new entry goes before the first entry, takes its place, or goes after it.
  induction l with
  | nil => by_cases hk : n = k <;> simp [insertEntry, hk]
  | cons x r ih =>
    obtain ⟨m, b⟩ := x
    obtain ⟨hm, hr⟩ := List.pairwise_cons.1 h
    simp only [insertEntry]
    split
    · by_cases hk : n = k <;> simp [hk]
    · split
      next heq => subst heq; by_cases hk : n = k <;> simp [hk]
      next hne =>
        by_cases hk : n = k
        · subst hk
          have hmn : (m == n) = false := by simpa using fun h => hne h.symm
          simp [hmn, ih hr]
        · by_cases hmk : m = k
          · simp [hmk, hk]
          · have : (m == k) = false := by simpa using hmk
            simp [this, ih hr, hk]

/-- Looking up after binding a pitch. -/
theorem get?_insert (m : PrefixMap) (n k : UInt8) (a : Affix) :
    (m.insert n a).get? k = if n = k then some a else m.get? k := by
  simp only [get?, insert, find?_insertEntry n a m.entries k m.sorted]
  split <;> rfl

/-- The name under which the sample of a lyric at a pitch is looked for. A pitch without a
binding leaves the lyric as it is. -/
def aliasFor (m : PrefixMap) (n : UInt8) (lyric : String) : String :=
  match m.get? n with
  | some a => a.apply lyric
  | none => lyric

/-- Whether a line is passed over. -/
def isSkipped (comment : Option Char) (line : List Char) : Bool :=
  let t := Text.trim line
  t = [] || comment.any fun c => t.head? == some c

/-- Read one line, given its number, into a map. -/
def readLine (o : PrefixMapOptions) (m : PrefixMap) (number : Nat) (line : List Char) :
    Except VoicebankError PrefixMap :=
  if isSkipped o.comment line then .ok m
  else match Text.splitThree o.delimiter line with
    | none => .error (.missingFields number)
    | some (name, before, after) =>
      (PitchName.read o.octaves (String.ofList name)).map fun n =>
        m.insert n ⟨String.ofList (Text.trim before), String.ofList (Text.trim after)⟩

/-- Read lines, the first of which has the given number. -/
def readLines (o : PrefixMapOptions) :
    PrefixMap → Nat → List (List Char) → Except VoicebankError PrefixMap
  | m, _, [] => .ok m
  | m, n, line :: rest => (readLine o m n line).bind fun m => readLines o m (n + 1) rest

/-- Read the text of a prefix map. -/
def read (o : PrefixMapOptions) (text : String) : Except VoicebankError PrefixMap :=
  readLines o empty 1 (Text.lines (Text.dropMark text.toList))

/-- Read the bytes of a prefix map. -/
def decode (o : PrefixMapOptions) (bytes : List UInt8) : Except VoicebankError PrefixMap :=
  read o (String.ofList (o.encoding.decode bytes))

/-- The line of one binding. -/
def renderEntry (o : PrefixMapOptions) (e : UInt8 × Affix) : List Char :=
  PitchName.render o.sharps o.octaves e.1 ++ o.delimiter :: e.2.before.toList
    ++ o.delimiter :: e.2.after.toList ++ ['\n']

/-- The pitches that are bound, lowest first. -/
def pitches (m : PrefixMap) : List UInt8 := m.entries.map (·.1)

/-- The pitches in the order in which they are written. The sort is stable. -/
def sortedPitches (m : PrefixMap) (o : PrefixMapOptions) : List UInt8 :=
  m.pitches.mergeSort fun a b => (o.order a b).isLE

/-- The text of a prefix map: the pitches are sorted, and each is looked up for its line. -/
def render (m : PrefixMap) (o : PrefixMapOptions) : List Char :=
  (m.sortedPitches o).flatMap fun n =>
    match m.get? n with
    | some a => renderEntry o (n, a)
    | none => []

/-- The bytes of a prefix map. -/
def encode (m : PrefixMap) (o : PrefixMapOptions) : List UInt8 := o.encoding.encode (m.render o)

/-- Lines that follow are read after the lines before them. -/
theorem readLines_append (o : PrefixMapOptions) (m : PrefixMap) (n : Nat)
    (s t : List (List Char)) :
    readLines o m n (s ++ t)
      = (readLines o m n s).bind fun m => readLines o m (n + s.length) t := by
  induction s generalizing m n with
  | nil => rfl
  | cons l s ih =>
    simp only [List.cons_append, readLines, List.length_cons]
    cases readLine o m n l with
    | error e => rfl
    | ok q =>
      show readLines o q (n + 1) (s ++ t) = (readLines o q (n + 1) s).bind _
      rw [ih, Nat.add_right_comm, Nat.add_assoc]

end PrefixMap

end VocalScore
