import VocalScore.Yaml.Glyph

/-!
# Block scalars

A block scalar begins after a header, `|` or `>`, with the lines below it that are indented
enough. After `|` the lines are kept; after `>` single newlines between lines that begin with
text become spaces. The header may give the depth of the indentation and say what happens to the
line breaks at the end: without a sign the first of them is kept, with a plus sign all of them
are, and with a minus sign none.
-/

namespace VocalScore.Yaml

/-- What happens to the line breaks at the end of a block scalar. -/
inductive Chomping where
  | clip
  | keep
  | strip
  deriving DecidableEq, Repr

/-- What the header of a block scalar says besides its style. -/
structure BlockHeader where
  chomping : Chomping := .clip
  /-- The depth of the indentation relative to the surrounding block, if it is given. -/
  depth : Option Nat := none
  deriving DecidableEq, Repr

/-- A line of a block scalar with content, and the breaks after it. -/
structure BlockLine where
  text : List Char
  breaks : List Char
  deriving DecidableEq, Repr

namespace BlockHeader

/-- The chomping that a sign stands for. -/
def signOf? (c : Char) : Option Chomping :=
  if c = '+' then some .keep else if c = '-' then some .strip else none

/-- Split off a sign. -/
def spanSign : List Glyph → Option Chomping × List Glyph
  | [] => (none, [])
  | g :: r => match signOf? g.char with
    | some c => (some c, r)
    | none => (none, g :: r)

/-- Split off a digit, which may not be zero. -/
def spanDepth : List Glyph → Option (Option Nat × List Glyph)
  | [] => some (none, [])
  | g :: r =>
    if g.char = '0' then none
    else if g.char.isDigit then some (some (g.char.toNat - 48), r)
    else some (none, g :: r)

/-- Read the header after its style, up to the start of the next line. Sign and depth may stand
in either order. -/
def read (s : List Glyph) : Option (BlockHeader × List Glyph) := do
  let (before, r) := spanSign s
  let (depth, r) ← spanDepth r
  let (sign, r) := if before.isNone && depth.isSome then spanSign r else (before, r)
  let r ← endLine? r
  some (⟨sign.getD .clip, depth⟩, r)

end BlockHeader

/-- The greatest column that indentation reaches before the first line with content; a tab may
not stand there. -/
def leadingColumn (greatest : Nat) : List Glyph → Option Nat
  | [] => some greatest
  | g :: r =>
    if g.char = ' ' then leadingColumn greatest r
    else if g.char = '\t' then none
    else
      let greatest := max greatest g.column
      if isBreak g.char then leadingColumn greatest r else some greatest

/-- The column at which the lines of a block scalar begin, given that of the surrounding block. -/
def blockColumn (surrounding : Int) (depth : Option Nat) (s : List Glyph) : Option Nat :=
  match depth with
  | some d => some ((max surrounding 0).toNat + d)
  | none => (leadingColumn 0 s).map fun n => max (max n (surrounding + 1).toNat) 1

/-- Split off the lines that begin at a column. The first part of the result is the rest of the
line at hand, if `within` says that there is one, the second its breaks. -/
def spanBlock (column : Nat) (within : Bool) :
    List Glyph → Option (List Char × List Char × List BlockLine × List Glyph)
  | [] => some ([], [], [], [])
  | g :: r =>
    if isBreak g.char then
      (spanBlock column false r).map fun (_, bs, ls, q) => ([], g.char :: bs, ls, q)
    else if within then
      (spanBlock column true r).map fun (t, bs, ls, q) => (g.char :: t, bs, ls, q)
    else if g.column < column && g.char = ' ' then spanBlock column false r
    else if g.column < column && g.char = '\t' then none
    else if g.column = column then
      (spanBlock column true r).map fun (t, bs, ls, q) =>
        ([], [], ⟨g.char :: t, bs⟩ :: ls, q)
    else some ([], [], [], g :: r)

/-- Whether a line begins with white space. -/
def BlockLine.isIndented (l : BlockLine) : Bool := l.text.head?.any isBlank

/-- The text between two lines of a folded scalar. -/
def foldedGap (l next : BlockLine) : List Char :=
  match l.breaks with
  | '\n' :: others =>
    if l.isIndented || next.isIndented then '\n' :: others
    else if others = [] then [' '] else others
  | bs => bs

/-- The text of lines, without the breaks after the last, and those breaks. -/
def joinLines (literal : Bool) : List BlockLine → List Char × List Char
  | [] => ([], [])
  | [l] => (l.text, l.breaks)
  | l :: next :: r =>
    let (t, bs) := joinLines literal (next :: r)
    (l.text ++ (if literal then l.breaks else foldedGap l next) ++ t, bs)

/-- The part of the breaks at the end that is kept. -/
def Chomping.apply : Chomping → List Char → List Char
  | .clip, bs => bs.take 1
  | .keep, bs => bs
  | .strip, _ => []

/-- The text of a block scalar whose first character has been read, and the rest. -/
def readBlock (literal : Bool) (surrounding : Int) (s : List Glyph) :
    Option (List Char × List Glyph) := do
  let (header, s) ← BlockHeader.read s
  let column ← blockColumn surrounding header.depth s
  let (_, before, lines, r) ← spanBlock column false s
  match lines with
  | [] => some (if header.chomping = .keep then before else [], r)
  | _ =>
    let (text, after) := joinLines literal lines
    some (before ++ text ++ header.chomping.apply after, r)

end VocalScore.Yaml
