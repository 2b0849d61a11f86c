import VocalScore.Text.Quoted
import VocalScore.Yaml.Fold

/-!
# Scalars between quotes

Between single quotes a quote is written twice. Between double quotes a backslash begins an
escape: a letter that stands for a character, or digits of base sixteen for its number. A mark
between documents may not stand within quotes.
-/

namespace VocalScore.Yaml

/-- Split off the pieces of a scalar whose opening single quote has been read. -/
def spanSingleQuoted : List Glyph → Option (List Piece × List Glyph)
  | [] => none
  | g :: r =>
    if isMark (g :: r) then none
    else if g.char = '\'' then
      match r with
      | [] => some ([], [])
      | h :: q =>
        if h.char = '\'' then (spanSingleQuoted q).map fun (ps, r) => (.char '\'' :: ps, r)
        else some ([], h :: q)
    else (spanSingleQuoted r).map fun (ps, r) => (.ofChar g.char :: ps, r)

/-- The character that a letter after a backslash stands for. -/
def escapeLetter? (c : Char) : Option Char :=
  (("0abt\tnvfre \"/\\N_LP".toList).zip
    ("\x00\x07\x08\t\t\n\x0b\x0c\r\x1b \"/\\\u0085\u00a0\u2028\u2029".toList)).lookup c

/-- How many digits follow a letter that announces the number of a character. -/
def escapeWidth? (c : Char) : Option Nat := [('x', 2), ('u', 4), ('U', 8)].lookup c

/-- The character with a number. -/
def charOf? (n : Nat) : Option Char := if n.isValidChar then some (Char.ofNat n) else none

/-- The character whose number has the digits at the front of a text. -/
def numberedChar? (width : Nat) (s : List Glyph) : Option Char :=
  let ds := chars (s.take width)
  if ds.length = width then (Text.hexNumber? ds).bind charOf? else none

/-- Split off the pieces of a scalar whose opening double quote has been read; `skip` counts the
digits that belong to an escape already read. -/
def spanDoubleQuoted : Nat → List Glyph → Option (List Piece × List Glyph)
  | _, [] => none
  | skip + 1, _ :: r => spanDoubleQuoted skip r
  | 0, g :: r =>
    if isMark (g :: r) then none
    else if g.char = '"' then some ([], r)
    else if g.char = '\\' then
      match r with
      | [] => none
      | e :: r =>
        if isBreak e.char then (spanDoubleQuoted 0 r).map fun (ps, r) => (.joint :: ps, r)
        else match escapeLetter? e.char, escapeWidth? e.char with
          | some x, _ => (spanDoubleQuoted 0 r).map fun (ps, r) => (.char x :: ps, r)
          | none, some width =>
            (numberedChar? width r).bind fun x =>
              (spanDoubleQuoted width r).map fun (ps, r) => (.char x :: ps, r)
          | none, none => none
    else (spanDoubleQuoted 0 r).map fun (ps, r) => (.ofChar g.char :: ps, r)

/-- The text of a scalar whose opening quote has been read, and the rest. -/
def readQuoted (double : Bool) (s : List Glyph) : Option (List Char × List Glyph) :=
  (if double then spanDoubleQuoted 0 s else spanSingleQuoted s).map fun (ps, r) => (fold ps, r)

end VocalScore.Yaml
