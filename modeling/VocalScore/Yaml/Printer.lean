import VocalScore.Text.Quoted
import VocalScore.Yaml.Glyph
import VocalScore.Yaml.Meaning

/-!
# Writing texts

`written` is the form of a text as a value in a mapping of the document. A text with a newline is
a block of its lines, if that is possible. Any other text stands without quotes unless it would
be read as something else. Where quotes are needed single ones will do, except for characters that
have to be escaped and for white space next to a break, which are written between double quotes.
-/

namespace VocalScore.Yaml

/-- The column of the lines of a text within a mapping of the document. -/
def depth : Nat := 4

/-- White space at the start of a further line of a text. -/
def margin : List Char := List.replicate depth ' '

/-- Characters that may stand in a text as they are. -/
def isPrintable (c : Char) : Bool :=
  let n := c.toNat
  n == 10 || (0x20 ≤ n && n ≤ 0x7E) || (0xA0 ≤ n && n ≤ 0xD7FF)
    || (0xE000 ≤ n && n ≤ 0xFFFD && n != 0xFEFF) || 0x10000 ≤ n

/-- Whether a text has a pair of neighbours of certain kinds. -/
def hasPair (first second : Char → Bool) : List Char → Bool
  | a :: b :: r => (first a && second b) || hasPair first second (b :: r)
  | _ => false

/-- Whether a text has a space before a break. -/
def hasSpaceBeforeBreak (s : List Char) : Bool := hasPair (· = ' ') isBreak s

/-- Whether a text has a space after a break. -/
def hasSpaceAfterBreak (s : List Char) : Bool := hasPair isBreak (· = ' ') s

/-- Whether a text has a mark inside that would end it: a colon before white space, or a number
sign after it. -/
def hasMark : List Char → Bool
  | [] => false
  | c :: r => (c = ':' && isGap r.head?) || (isGap (some c) && r.head? == some '#') || hasMark r

/-- Whether a text can be written without quotes. -/
def isPlain (s : List Char) : Bool :=
  match s with
  | [] => false
  | c :: r =>
    s.all (fun c => isPrintable c && !isBreak c)
      && (!isIndicator c || ((c = '-' || c = '?' || c = ':') && !isGap r.head?))
      && c != ' ' && s.getLast? != some ' '
      && s.take 3 != ['-', '-', '-'] && s.take 3 != ['.', '.', '.'] && !hasMark s

/-- Whether a text can be written between single quotes. -/
def isSingleQuotable (s : List Char) : Bool :=
  s.all isPrintable && !hasSpaceBeforeBreak s && !hasSpaceAfterBreak s

/-- Whether a text can be written as a block. -/
def isBlock (s : List Char) : Bool :=
  s ≠ [] && s.all isPrintable && !hasSpaceBeforeBreak s && s.getLast? != some ' '

/-- The rest of a text between single quotes; `broken` says whether a break comes before it. -/
def singleQuotedFrom (broken : Bool) : List Char → List Char
  | [] => if broken then margin else []
  | c :: r =>
    if isBreak c then
      (if c = '\n' ∧ ¬broken then ['\n', c] else [c]) ++ singleQuotedFrom true r
    else
      (if broken then margin else []) ++ (if c = '\'' then ['\'', c] else [c])
        ++ singleQuotedFrom false r

/-- A text between single quotes. Of a row of breaks a newline at the front is written twice, and
a margin comes after the row. -/
def inSingleQuotes (s : List Char) : List Char := '\'' :: singleQuotedFrom false s ++ ['\'']

/-- Digits of base sixteen in upper case, with zeros in front up to a width. -/
def upperHex (width n : Nat) : List Char :=
  let ds := (Text.digits 16 n).map Char.toUpper
  List.replicate (width - ds.length) '0' ++ ds

/-- One character between double quotes. -/
def escapeChar (c : Char) : List Char :=
  if c = '"' ∨ c = '\\' then ['\\', c]
  else if c = '\x00' then ['\\', '0']
  else if c = '\x07' then ['\\', 'a']
  else if c = '\x08' then ['\\', 'b']
  else if c = '\t' then ['\\', 't']
  else if c = '\n' then ['\\', 'n']
  else if c = '\x0b' then ['\\', 'v']
  else if c = '\x0c' then ['\\', 'f']
  else if c = '\r' then ['\\', 'r']
  else if c = '\x1b' then ['\\', 'e']
  else if c = '\u0085' then ['\\', 'N']
  else if c = '\u2028' then ['\\', 'L']
  else if c = '\u2029' then ['\\', 'P']
  else if isPrintable c then [c]
  else if c.toNat ≤ 0xFF then '\\' :: 'x' :: upperHex 2 c.toNat
  else '\\' :: 'u' :: upperHex 4 c.toNat

/-- A text between double quotes. -/
def inDoubleQuotes (s : List Char) : List Char := '"' :: s.flatMap escapeChar ++ ['"']

/-- A text between quotes, single ones if that is possible. -/
def inQuotes (s : List Char) : List Char :=
  if isSingleQuotable s then inSingleQuotes s else inDoubleQuotes s

/-- The sign that says what happens to the breaks at the end of a block. -/
def chompingSign (s : List Char) : List Char :=
  match s.reverse with
  | [] => ['-']
  | c :: r =>
    if !isBreak c then ['-'] else if r.head?.all isBreak then ['+'] else []

/-- The lines of a block; `broken` says whether a break comes before what is left. -/
def blockLines (broken : Bool) : List Char → List Char
  | [] => []
  | c :: r =>
    if isBreak c then c :: blockLines true r
    else (if broken then margin else []) ++ c :: blockLines false r

/-- A text as a block, which gives the depth of its lines if they do not begin with text. -/
def inBlock (s : List Char) : List Char :=
  ['|'] ++ (if s.head?.any fun c => c = ' ' || isBreak c then ['2'] else [])
    ++ chompingSign s ++ '\n' :: blockLines true s

/-- A text. -/
def written (s : List Char) : List Char :=
  if s.contains '\n' then if isBlock s then inBlock s else inDoubleQuotes s
  else if readsAsText s && isPlain s then s
  else inQuotes s

end VocalScore.Yaml
