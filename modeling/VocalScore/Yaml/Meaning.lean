import VocalScore.Number.Decimal
import VocalScore.Text.Quoted

/-!
# What scalars without quotes stand for

A scalar without quotes may stand for a number, a truth value or nothing at all.
`readsAsText` tells which texts do not, so that they mean the same with quotes and without.
-/

namespace VocalScore.Yaml

/-- The words for nothing. -/
def isNull (s : List Char) : Bool :=
  ["~", "null", "Null", "NULL"].contains (String.ofList s)

/-- Whether a scalar without quotes stands for nothing, for which no text at all will do. -/
def isNothing (s : List Char) : Bool := s.isEmpty || isNull s

/-- The truth value that a word stands for. -/
def boolOf? (s : List Char) : Option Bool :=
  if ["true", "True", "TRUE"].contains (String.ofList s) then some true
  else if ["false", "False", "FALSE"].contains (String.ofList s) then some false
  else none

/-- Drop a plus sign. -/
def dropPlus : List Char → List Char
  | [] => []
  | c :: r => if c = '+' then r else c :: r

/-- Whether a text is made of several digits of which the first is zero. -/
def hasLeadingZero (s : List Char) : Bool :=
  let ds := (Number.spanSign s).2
  1 < ds.length && ds.head? == some '0' && ds.all Char.isDigit

/-- Digits of a base as a number. -/
def digitsOf? (base : Nat) (ds : List Char) : Option Nat :=
  if ds = [] then none
  else (ds.mapM fun c => (Text.hexValue? c).filter (· < base)).map
    (·.foldl (fun n d => n * base + d) 0)

/-- Digits of a base after its mark. -/
def markedOf? : List Char → Option Nat
  | '0' :: 'x' :: ds => digitsOf? 16 ds
  | '0' :: 'o' :: ds => digitsOf? 8 ds
  | '0' :: 'b' :: ds => digitsOf? 2 ds
  | _ => none

/-- A whole number without a sign, of any base. -/
def unsignedOf? (s : List Char) : Option Nat :=
  (markedOf? s).or (if hasLeadingZero s then none else digitsOf? 10 s)

/-- A whole number from zero to a bound. -/
def natOf? (bound : Nat) (s : List Char) : Option Nat :=
  (unsignedOf? (dropPlus s)).filter (· ≤ bound)

/-- Whether a text stands for a whole number, of at most 128 bits. -/
def isWhole (s : List Char) : Bool :=
  match s with
  | '-' :: ds => (unsignedOf? ds).any (· ≤ Nat.pow 2 127)
  | _ => (natOf? (Nat.pow 2 128 - 1) s).isSome

/-- Words for numbers that are not finite, which have no plus sign. -/
def wordsForNumbers : List String := ["-.inf", "-.Inf", "-.INF", ".nan", ".NaN", ".NAN"]

/-- Words for infinity, which may have a plus sign. -/
def wordsForInfinity : List String := [".inf", ".Inf", ".INF"]

/-- Whether a text stands for a binary64 number. -/
def isReal (s : List Char) : Bool :=
  let unsigned := dropPlus s
  let signedTwice := unsigned.length < s.length && (unsigned.head?.any fun c => c = '+' || c = '-')
  !signedTwice && (wordsForNumbers.contains (String.ofList s)
    || wordsForInfinity.contains (String.ofList unsigned)
    || (Number.read unsigned).any (·.isFinite))

/-- Whether a text without quotes is read as a text. -/
def readsAsText (s : List Char) : Bool :=
  !(isNothing s || (boolOf? s).isSome || isWhole s || hasLeadingZero s || isReal s)

end VocalScore.Yaml
