import Std.Data.ExtHashMap.Lemmas
import VocalScore.Encoding.Codec
import VocalScore.Number.Layout
import VocalScore.Voicebank.PrefixMap

/-!
# Sample tables

A sample table says where in a recording a sound lies. Its file has a line for each sample,
`filename=alias,offset,consonant,cutoff,preutterance,overlap`, with five numbers in
milliseconds; a blank number is zero.

A table keeps its entries in order, repeated names included, and an index from each name to the
first entry that has it. That the index is right is part of the type, so looking up a name is
searching the entries from the front (`get?_eq_find?`), and tables with the same entries are
equal (`SampleTable.ext`).
-/

namespace VocalScore

/-- A sample: its recording, its name, and where it lies in the recording. -/
structure SampleEntry where
  filename : String
  aliasName : String
  offset : Float
  consonant : Float
  cutoff : Float
  preutterance : Float
  overlap : Float
  deriving DecidableEq, Repr

/-- Equality of names is an equivalence, which an index needs. -/
instance equivBEqName : EquivBEq String := inferInstance

/-- Entries with an index of their names. -/
structure SampleTable where
  entries : Array SampleEntry
  index : Std.ExtHashMap String Nat
  index_eq : ∀ a, index[a]? = entries.findIdx? (·.aliasName == a)

/-- How a sample table is read and written. -/
structure SampleTableOptions where
  /-- The encoding of the file. -/
  encoding : Encoding := .utf8
  /-- Lines that start with this character, after white space, are passed over. -/
  comment : Option Char := none
  /-- The least width of a written number. -/
  width : Nat := 0
  /-- The places of a written number; without it, the fewest that read back. -/
  places : Option Nat := none

namespace SampleEntry

/-- How many values follow the file name: the alias and five numbers. -/
def valueCount : Nat := 6

/-- Read a number of a sample line. -/
def number (filename field : String) (raw : List Char) : Except VoicebankError Float :=
  let t := Text.trim raw
  if t = [] then .ok 0.0
  else match Number.read t with
    | some x => .ok x
    | none => .error (.entryValue field filename (String.ofList t))

/-- Read a sample line, given its number. -/
def readLine (number' : Nat) (line : List Char) : Except VoicebankError SampleEntry :=
  match Text.splitOnce '=' line with
  | none => .error (.missingSeparator number')
  | some (name, values) =>
    let filename := String.ofList name
    match Text.splitOn ',' values with
    | [aliasName, offset, consonant, cutoff, preutterance, overlap] => do
      let offset ← number filename "offset" offset
      let consonant ← number filename "consonant" consonant
      let cutoff ← number filename "cutoff" cutoff
      let preutterance ← number filename "preutterance" preutterance
      let overlap ← number filename "overlap" overlap
      .ok { filename, aliasName := String.ofList aliasName, offset, consonant, cutoff,
            preutterance, overlap }
    -- The number of values is checked before any of them is read.
    | fields => .error (.entryLength filename fields.length)

/-- The five numbers of a sample, in the order of its line. -/
def numbers (e : SampleEntry) : List Float :=
  [e.offset, e.consonant, e.cutoff, e.preutterance, e.overlap]

/-- The text of a number. -/
def renderNumber (o : SampleTableOptions) (x : Float) : List Char :=
  Number.padLeft o.width <| match o.places with
    | some p => Number.fixed p x
    | none => Number.plain x

/-- The line of a sample, without its newline. -/
def renderLine (o : SampleTableOptions) (e : SampleEntry) : List Char :=
  e.filename.toList ++ '=' :: e.aliasName.toList
    ++ e.numbers.flatMap fun x => ',' :: renderNumber o x

end SampleEntry

namespace SampleTable

/-- A table without entries. -/
def empty : SampleTable := ⟨#[], ∅, by simp⟩

/-- Add an entry at the end. A name that is there already keeps its first entry. -/
def push (t : SampleTable) (e : SampleEntry) : SampleTable where
  entries := t.entries.push e
  index := t.index.insertIfNew e.aliasName t.entries.size
  index_eq a := by
    rw [Std.ExtHashMap.getElem?_insertIfNew, Array.findIdx?_push, ← t.index_eq a]
    -- A name that is new is found at the end, any other where it was.
    by_cases h : e.aliasName = a
    · subst h
      by_cases hm : e.aliasName ∈ t.index <;> simp [hm]
    · simp [h]

/-- The table of a list of entries. -/
def ofList (l : List SampleEntry) : SampleTable := l.foldl push empty

/-- The entries in order. -/
def toList (t : SampleTable) : List SampleEntry := t.entries.toList

/-- The number of entries. -/
def size (t : SampleTable) : Nat := t.entries.size

/-- All entries of one table, then those of another. -/
def append (t u : SampleTable) : SampleTable := u.toList.foldl push t

/-- The entry with a name. -/
def get? (t : SampleTable) (a : String) : Option SampleEntry :=
  t.index[a]?.bind fun i => t.entries[i]?

/-- The sample for a lyric at a pitch: the one that a prefix map names, or else the one with the
name of the lyric itself. -/
def lookup (t : SampleTable) (map : Option PrefixMap) (pitch : UInt8) (lyric : String) :
    Option SampleEntry :=
  (map.bind fun m => t.get? (m.aliasFor pitch lyric)).or (t.get? lyric)

@[simp] theorem toList_empty : empty.toList = [] := rfl

/-- An entry that is pushed comes last. -/
@[simp] theorem toList_push (t : SampleTable) (e : SampleEntry) :
    (t.push e).toList = t.toList ++ [e] := by
  simp [push, toList]

theorem toList_foldl_push (t : SampleTable) (l : List SampleEntry) :
    (l.foldl push t).toList = t.toList ++ l := by
  induction l generalizing t with
  | nil => simp
  | cons e l ih => simp [ih]

/-- A table that is made of entries has these, in their order. -/
@[simp] theorem toList_ofList (l : List SampleEntry) : (ofList l).toList = l := by
  simp [ofList, toList_foldl_push]

/-- A table that is merged has the entries of the first one before those of the second one. -/
@[simp] theorem toList_append (t u : SampleTable) :
    (t.append u).toList = t.toList ++ u.toList := toList_foldl_push t u.toList

/-- Tables with the same entries are equal. -/
theorem ext {t u : SampleTable} (h : t.toList = u.toList) : t = u := by
  obtain ⟨es, i, hi⟩ := t
  obtain ⟨fs, j, hj⟩ := u
  have he : es = fs := Array.toList_inj.1 h
  subst he
  have : i = j := Std.ExtHashMap.ext_getElem? fun a => by rw [hi, hj]
  subst this
  rfl

/-- The element at the first place where a test holds is the first element that passes it. -/
private theorem findIdx?_bind_getElem? {α : Type} (p : α → Bool) (l : List α) :
    ((l.findIdx? p).bind fun i => l[i]?) = l.find? p := by
  induction l with
  | nil => rfl
  | cons x l ih =>
    rw [List.findIdx?_cons, List.find?_cons]
    cases p x
    · simpa [Option.bind_map, Function.comp_def] using ih
    · simp

/-- Looking up a name is searching the entries from the front. -/
theorem get?_eq_find? (t : SampleTable) (a : String) :
    t.get? a = t.toList.find? (·.aliasName == a) := by
  rw [get?, t.index_eq, toList, ← findIdx?_bind_getElem?]
  cases t.entries
  simp

/-- Whether a line is passed over. -/
def isSkipped (comment : Option Char) (line : List Char) : Bool :=
  let t := Text.trimStart line
  t = [] || comment.any fun c => t.head? == some c

/-- Read one line, given its number, into a table. -/
def readLine (o : SampleTableOptions) (t : SampleTable) (number : Nat) (line : List Char) :
    Except VoicebankError SampleTable :=
  if isSkipped o.comment line then .ok t else (SampleEntry.readLine number line).map t.push

/-- Read lines, the first of which has the given number. -/
def readLines (o : SampleTableOptions) :
    SampleTable → Nat → List (List Char) → Except VoicebankError SampleTable
  | t, _, [] => .ok t
  | t, n, line :: rest => (readLine o t n line).bind fun t => readLines o t (n + 1) rest

/-- Read the text of a sample table. -/
def read (o : SampleTableOptions) (text : String) : Except VoicebankError SampleTable :=
  readLines o empty 1 (Text.lines (Text.dropMark text.toList))

/-- Read the bytes of a sample table. -/
def decode (o : SampleTableOptions) (bytes : List UInt8) : Except VoicebankError SampleTable :=
  read o (String.ofList (o.encoding.decode bytes))

/-- The text of a sample table. -/
def render (t : SampleTable) (o : SampleTableOptions) : List Char :=
  t.toList.flatMap fun e => e.renderLine o ++ ['\n']

/-- The bytes of a sample table. -/
def encode (t : SampleTable) (o : SampleTableOptions) : List UInt8 :=
  o.encoding.encode (t.render o)

/-- Lines that follow are read after the lines before them. -/
theorem readLines_append (o : SampleTableOptions) (t : SampleTable) (n : Nat)
    (s r : List (List Char)) :
    readLines o t n (s ++ r)
      = (readLines o t n s).bind fun t => readLines o t (n + s.length) r := by
  induction s generalizing t n with
  | nil => rfl
  | cons l s ih =>
    simp only [List.cons_append, readLines, List.length_cons]
    cases readLine o t n l with
    | error e => rfl
    | ok q =>
      show readLines o q (n + 1) (s ++ r) = (readLines o q (n + 1) s).bind _
      rw [ih, Nat.add_right_comm, Nat.add_assoc]

end SampleTable

end VocalScore
