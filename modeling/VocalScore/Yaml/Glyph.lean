/-!
# Placed characters

The layout of a YAML text carries meaning, so its characters are read together with their places:
a `Glyph` knows its offset in the text, its line and its column. `place` gives every character of
a text its glyph. Line breaks become one kind of glyph: all but the two separators of Unicode are
written as a newline.
-/

namespace VocalScore.Yaml

/-- Characters that may stand in a text. -/
def isAllowed (c : Char) : Bool :=
  let n := c.toNat
  n == 9 || n == 10 || n == 13 || (0x20 ≤ n && n ≤ 0x7E) || n == 0x85
    || (0xA0 ≤ n && n ≤ 0xFFFD) || 0x10000 ≤ n

/-- White space within a line. -/
def isBlank (c : Char) : Bool := c = ' ' || c = '\t'

/-- Characters that end a line. Glyphs have no others. -/
def isBreak (c : Char) : Bool := c = '\n' || c = '\u2028' || c = '\u2029'

/-- Whether the next character, if there is one, is white space or a break. -/
def isGap : Option Char → Bool
  | none => true
  | some c => isBlank c || isBreak c

/-- Characters that have a meaning of their own at the start of a value. -/
def isIndicator (c : Char) : Bool := "-?:,[]\x7b\x7d#&*!|>'\"%@`".toList.contains c

/-- Characters of the names of anchors and tags. -/
def isNameChar (c : Char) : Bool := c.isAlphanum || c = '-' || c = '_'

/-- A character at its place. -/
structure Glyph where
  char : Char
  /-- How many bytes the text before it has in UTF-8. -/
  offset : Nat
  /-- How many lines stand before its own. -/
  line : Nat
  /-- How many characters stand before it in its line. -/
  column : Nat
  deriving DecidableEq, Repr

/-- The glyphs of the characters from a place on. -/
def placeFrom (offset line column : Nat) : List Char → List Glyph
  | [] => []
  | c :: r =>
    -- A carriage return belongs to the newline after it.
    if c = '\r' ∧ r.head? = some '\n' then placeFrom (offset + 1) line column r
    else
      let next := offset + c.utf8Size
      let c := if c = '\r' ∨ c = '\u0085' then '\n' else c
      ⟨c, offset, line, column⟩
        :: if isBreak c then placeFrom next (line + 1) 0 r else placeFrom next line (column + 1) r

/-- The glyphs of a text. -/
def place (s : List Char) : List Glyph := placeFrom 0 0 0 s

/-- The characters of glyphs. -/
def chars (s : List Glyph) : List Char := s.map Glyph.char

/-- Whether a text, or the rest of one, is empty or goes on with white space or a break. -/
def breaksOff (s : List Glyph) : Bool := isGap (s.head?.map Glyph.char)

/-- Whether three of a character stand alone at the start of a line. -/
def isMarkOf (mark : Char) : List Glyph → Bool
  | a :: b :: c :: r =>
    a.column = 0 && a.char = mark && b.char = mark && c.char = mark && breaksOff r
  | _ => false

/-- Whether a mark between documents stands here. -/
def isMark (s : List Glyph) : Bool := isMarkOf '-' s || isMarkOf '.' s

/-- Brackets and commas of flow collections. -/
def isFlowMark (c : Char) : Bool := ",[]\x7b\x7d".toList.contains c

/-- Drop white space within a line, and then a comment if one begins there. -/
def dropComment (s : List Glyph) : List Glyph :=
  match s.dropWhile (isBlank ·.char) with
  | [] => []
  | g :: r => if g.char = '#' then r.dropWhile (!isBreak ·.char) else g :: r

/-- The start of the next line, if nothing but a comment is left on this one. -/
def endLine? (s : List Glyph) : Option (List Glyph) :=
  match dropComment s with
  | [] => some []
  | g :: r => if isBreak g.char then some r else none

end VocalScore.Yaml
