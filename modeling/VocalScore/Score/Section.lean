import VocalScore.Text.Basic

/-!
# Sections of key lines

The text of a score, and of an installation manifest, is a list of sections. A line in brackets
is the header of a section; the other lines hold a key, `=` and a value, or are blank, or are
comments that start with `;` or `#`. Lines before the first header belong to the section
`Section.headName`. A section whose name is on the list of raw names keeps its lines as they
stand.

`read` is a fold over the numbered lines: `readLine` says what one line does to the sections
read so far, and the first line that fits no rule is the fault of the text.
-/

namespace VocalScore

/-- What is wrong with a line. -/
inductive LineFault where
  /-- A header without its closing bracket. -/
  | unterminatedHeader (line : String)
  /-- A line of a section without `=`. -/
  | missingDelimiter (line : String)
  deriving DecidableEq, Repr

namespace LineFault

/-- The fault in words. -/
def reason : LineFault → String
  | unterminatedHeader line => "unterminated section header: " ++ line
  | missingDelimiter line => "key-value delimiter not found: " ++ line

end LineFault

/-- A fault with the number of its line, counted from one. -/
structure Malformed where
  line : Nat
  fault : LineFault
  deriving DecidableEq, Repr

/-- A section: its name, the number of its header line, its keys with their values in file
order, and its lines if it is raw. -/
structure Section where
  name : String
  line : Nat
  entries : List (String × String)
  body : List String
  deriving DecidableEq, Repr

namespace Section

/-- The name of the section that holds the lines before the first header. -/
def headName : String := "DEFAULT"

/-- A section without lines. -/
def empty (name : String) (line : Nat) : Section := ⟨name, line, [], []⟩

/-- The value of a key; of several lines with one key the last counts. -/
def get? (s : Section) (key : String) : Option String :=
  (s.entries.reverse.find? (·.1 == key)).map (·.2)

/-- The value of a key, empty if the key is absent. -/
def value (s : Section) (key : String) : String := (s.get? key).getD ""

/-- Whether some line has the key. -/
def has (s : Section) (key : String) : Bool := s.entries.any (·.1 == key)

/-- A section has a key that has a value in it, even an empty one. -/
theorem has_eq_isSome_get? (s : Section) (key : String) : s.has key = (s.get? key).isSome := by
  rw [Bool.eq_iff_iff]
  simp [has, get?]

/-- What a line is, by itself. -/
inductive Line where
  /-- A header with the name between its brackets. -/
  | header (name : String)
  /-- Not a header. -/
  | other (trimmed : List Char)

/-- Whether a line is a header; a line that opens a bracket has to close it. -/
def readHeader (line : List Char) : Except LineFault Line :=
  match Text.trim line with
  | '[' :: r =>
    if r.getLast? = some ']' then .ok (.header (String.ofList (Text.trim r.dropLast)))
    else .error (.unterminatedHeader (String.ofList ('[' :: r)))
  | t => .ok (.other t)

/-- Add a line that is not a header to a section. -/
def addLine (raw : List String) (s : Section) (line trimmed : List Char) :
    Except LineFault Section :=
  -- A raw section keeps comments too, but neither blank lines nor white space at the end.
  if raw.contains s.name then
    if trimmed = [] then .ok s
    else .ok { s with body := s.body ++ [String.ofList (Text.trimEnd line)] }
  else if trimmed = [] ∨ trimmed.head? = some ';' ∨ trimmed.head? = some '#' then .ok s
  -- The value may have further delimiters.
  else match Text.splitOnce '=' trimmed with
    | none => .error (.missingDelimiter (String.ofList trimmed))
    | some (key, value) =>
      let entry := (String.ofList (Text.trim key), String.ofList (Text.trim value))
      .ok { s with entries := s.entries ++ [entry] }

/-- The sections read so far: those that are complete, and the one under way. -/
structure Progress where
  done : List Section
  current : Section

/-- Nothing read yet. -/
def Progress.start : Progress := ⟨[], empty headName 0⟩

/-- All sections, the one under way last. -/
def Progress.sections (p : Progress) : List Section := p.done ++ [p.current]

/-- Read one line, given its number. -/
def readLine (raw : List String) (p : Progress) (number : Nat) (line : List Char) :
    Except Malformed Progress :=
  let step : Except LineFault Progress := do
    match ← readHeader line with
    | .header name => pure ⟨p.done ++ [p.current], empty name number⟩
    | .other trimmed => pure { p with current := ← addLine raw p.current line trimmed }
  step.mapError (⟨number, ·⟩)

/-- Read lines, the first of which has the given number. -/
def readLines (raw : List String) : Progress → Nat → List (List Char) → Except Malformed Progress
  | p, _, [] => .ok p
  | p, number, line :: rest => do
    let p ← readLine raw p number line
    readLines raw p (number + 1) rest

/-- The sections of a text, in file order. -/
def read (raw : List String) (text : String) : Except Malformed (List Section) :=
  (readLines raw .start 1 (Text.lines (Text.dropMark text.toList))).map Progress.sections

/-- Lines that follow are read after the lines before them. -/
theorem readLines_append (raw : List String) (p : Progress) (n : Nat) (s t : List (List Char)) :
    readLines raw p n (s ++ t)
      = (readLines raw p n s).bind fun q => readLines raw q (n + s.length) t := by
  induction s generalizing p n with
  | nil => rfl
  | cons l s ih =>
    simp only [List.cons_append, readLines, List.length_cons]
    cases readLine raw p n l with
    | error e => rfl
    | ok q =>
      show readLines raw q (n + 1) (s ++ t) = (readLines raw q (n + 1) s).bind _
      rw [ih, Nat.add_right_comm, Nat.add_assoc]

end Section

end VocalScore
