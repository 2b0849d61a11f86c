import VocalScore.Json.Basic
import VocalScore.Json.Numeral

/-!
# Reading JSON

`read` accepts one value with white space around it. White space is the space, the tab, the
newline and the carriage return; no comma may stand before a closing bracket.

The functions below read a value, or the rest of an array or object after its first item, from
the front of a text and return what follows. They use up one unit of fuel a step; a text never
takes more steps than it has characters.
-/

namespace VocalScore.Json

/-- White space between the parts of a text. -/
def isSpace (c : Char) : Bool := c = ' ' || c = '\n' || c = '\t' || c = '\r'

/-- Drop white space at the front. -/
def skipSpace (s : List Char) : List Char := s.dropWhile isSpace

/-- Drop a word at the front. -/
def dropWord? : List Char → List Char → Option (List Char)
  | [], s => some s
  | _ :: _, [] => none
  | w :: ws, c :: r => if w = c then dropWord? ws r else none

/-- Read a word or a number. -/
def readLeaf (s : List Char) : Option (Json × List Char) :=
  match s with
  | [] => none
  | c :: _ =>
    if c = 'n' then (dropWord? ['n', 'u', 'l', 'l'] s).map (null, ·)
    else if c = 't' then (dropWord? ['t', 'r', 'u', 'e'] s).map (bool true, ·)
    else if c = 'f' then (dropWord? ['f', 'a', 'l', 's', 'e'] s).map (bool false, ·)
    else (Numeral.span s).map fun (n, r) => (number n.spelling, r)

/-- Read the spelling of a string whose opening quote has been read. -/
def readSpelling (s : List Char) : Option (List Char × List Char) :=
  (spanString s).bind fun (t, r) => if isSpelling t then some (t, r) else none

/-- Read a key and the colon after it. -/
def readKey (s : List Char) : Option (List Char × List Char) :=
  match skipSpace s with
  | [] => none
  | c :: r =>
    if c = '"' then
      (readSpelling r).bind fun (k, r) =>
        match skipSpace r with
        | [] => none
        | d :: r => if d = ':' then some (k, r) else none
    else none

mutual

/-- Read a value. -/
def readValue : Nat → List Char → Option (Json × List Char)
  | 0, _ => none
  | fuel + 1, s =>
    match skipSpace s with
    | [] => none
    | c :: r =>
      if c = '"' then (readSpelling r).map fun (t, r) => (string t, r)
      else if c = '[' then
        match skipSpace r with
        | [] => none
        | d :: q =>
          -- Only an array without items may be closed here, so no comma stands before a bracket.
          if d = ']' then some (array [], q)
          else
            (readValue fuel (d :: q)).bind fun (j, r) =>
              (readItems fuel r).map fun (js, r) => (array (j :: js), r)
      else if c = '\x7b' then
        match skipSpace r with
        | [] => none
        | d :: q =>
          if d = '\x7d' then some (object [], q)
          else
            (readKey (d :: q)).bind fun (k, r) =>
              (readValue fuel r).bind fun (j, r) =>
                (readMembers fuel r).map fun (ms, r) => (object ((k, j) :: ms), r)
      else readLeaf (c :: r)

/-- Read the items of an array after the first, and its closing bracket. -/
def readItems : Nat → List Char → Option (List Json × List Char)
  | 0, _ => none
  | fuel + 1, s =>
    match skipSpace s with
    | [] => none
    | c :: r =>
      if c = ']' then some ([], r)
      else if c = ',' then
        (readValue fuel r).bind fun (j, r) =>
          (readItems fuel r).map fun (js, r) => (j :: js, r)
      else none

/-- Read the members of an object after the first, and its closing bracket. -/
def readMembers : Nat → List Char → Option (List (List Char × Json) × List Char)
  | 0, _ => none
  | fuel + 1, s =>
    match skipSpace s with
    | [] => none
    | c :: r =>
      if c = '\x7d' then some ([], r)
      else if c = ',' then
        (readKey r).bind fun (k, r) =>
          (readValue fuel r).bind fun (j, r) =>
            (readMembers fuel r).map fun (ms, r) => ((k, j) :: ms, r)
      else none

end

/-- Read a text that holds one value. -/
def read (s : List Char) : Option Json :=
  match readValue (s.length + 1) s with
  | some (j, r) => if skipSpace r = [] then some j else none
  | none => none

end VocalScore.Json
