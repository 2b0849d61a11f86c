import VocalScore.Encoding.Utf8
import VocalScore.Text.Quoted
import VocalScore.Yaml.Token

/-!
# Anchors, tags and directives

An anchor names a node and an alias stands for the node with that name. A tag says what kind of
thing a node is: a handle and a suffix, or a whole name between angle brackets. Directives before
a document give the version of the format and the meaning of handles.

Tags hold bytes, because a percent sign and two digits of base sixteen stand for a byte. The bytes
of a character have to follow each other.
-/

namespace VocalScore.Yaml

/-- Split off a name. -/
def spanName (s : List Glyph) : List Char × List Glyph :=
  (chars (s.takeWhile (isNameChar ·.char)), s.dropWhile (isNameChar ·.char))

/-- Characters that may follow the name of an anchor. -/
def followsAnchor : List Glyph → Bool
  | [] => true
  | g :: r => breaksOff (g :: r) || "?:,]\x7d%@`".toList.contains g.char

/-- Read the name of an anchor or an alias. -/
def readAnchor (s : List Glyph) : Option (List Char × List Glyph) :=
  let (name, r) := spanName s
  if name ≠ [] ∧ followsAnchor r then some (name, r) else none

/-- Split off a handle: an exclamation mark, a name, and a second mark if there is one. -/
def spanHandle : List Glyph → Option (List Char × List Glyph)
  | [] => none
  | g :: r =>
    if g.char = '!' then
      let (name, r) := spanName r
      match r with
      | h :: q => if h.char = '!' then some ('!' :: name ++ ['!'], q) else some ('!' :: name, r)
      | [] => some ('!' :: name, [])
    else none

/-- Whether a handle is complete: it is a single mark, or a name between two. -/
def isHandle (h : List Char) : Bool := 2 ≤ h.length && h.getLast? == some '!'

/-- Characters of a tag; brackets and commas may stand only where no collection can end. -/
def isTagChar (anywhere : Bool) (c : Char) : Bool :=
  isNameChar c || ";/?:@&=+$.!~*'()".toList.contains c || (anywhere && ",[]".toList.contains c)

/-- How many bytes the character has that begins with a byte. -/
def widthOf? (b : Nat) : Option Nat :=
  if b < 0x80 then some 1
  else if b < 0xC0 then none
  else if b < 0xE0 then some 2
  else if b < 0xF0 then some 3
  else if b < 0xF8 then some 4
  else none

/-- The number of bytes that have to follow a byte, when `pending` bytes of a character are open. -/
def stillOpen? (pending b : Nat) : Option Nat :=
  match pending with
  | 0 => (widthOf? b).map (· - 1)
  | n + 1 => if 0x80 ≤ b ∧ b < 0xC0 then some n else none

/-- Split off the characters of a tag as bytes; `pending` bytes have to come before all else. -/
def spanTagText (anywhere : Bool) (pending : Nat) :
    List Glyph → Option (List UInt8 × List Glyph)
  | [] => if pending = 0 then some ([], []) else none
  | g :: r =>
    if g.char = '%' then
      match r with
      | a :: b :: q =>
        (Text.hexNumber? [a.char, b.char]).bind fun n =>
          (stillOpen? pending n).bind fun pending =>
            (spanTagText anywhere pending q).map fun (bs, q) => (UInt8.ofNat n :: bs, q)
      | _ => none
    else if pending ≠ 0 then none
    else if isTagChar anywhere g.char then
      (spanTagText anywhere 0 r).map fun (bs, q) => (Utf8.encodeChar g.char ++ bs, q)
    else some ([], g :: r)

/-- Read a tag between angle brackets, of which the opening one has been read. -/
def readWholeTag (s : List Glyph) : Option (Token × List Glyph) := do
  let (bs, r) ← spanTagText true 0 s
  match r with
  | g :: q => if bs ≠ [] ∧ g.char = '>' then some (.tag [] bs, q) else none
  | [] => none

/-- Read a tag of a handle and a suffix. What looks like a handle without a second mark belongs to
the suffix; a mark alone is a tag of its own. -/
def readShortTag (s : List Glyph) : Option (Token × List Glyph) := do
  let (h, r) ← spanHandle s
  let (bs, r) ← spanTagText false 0 r
  if isHandle h then if bs = [] then none else some (.tag h bs, r)
  else match Utf8.encode (h.drop 1) ++ bs with
    | [] => some (.tag [] (Utf8.encode ['!']), r)
    | suffix => some (.tag ['!'] suffix, r)

/-- Read a tag, which white space or the end of a line has to follow. -/
def readTag (flow : Bool) (s : List Glyph) : Option (Token × List Glyph) := do
  let (t, r) ← match s with
    | _ :: b :: q => if b.char = '<' then readWholeTag q else readShortTag s
    | _ => readShortTag s
  if breaksOff r || (flow && r.head?.any (·.char = ',')) then some (t, r) else none

/-- Split off a number of a version, which has nine digits at most. -/
def spanVersionNumber (s : List Glyph) : Option (Nat × List Glyph) :=
  let ds := chars (s.takeWhile (·.char.isDigit))
  if ds ≠ [] ∧ ds.length ≤ 9 then
    some (ds.foldl (fun n c => 10 * n + (c.toNat - 48)) 0, s.dropWhile (·.char.isDigit))
  else none

/-- Read the value of a version directive. -/
def readVersion (s : List Glyph) : Option (Token × List Glyph) := do
  let (major, r) ← spanVersionNumber (s.dropWhile (isBlank ·.char))
  match r with
  | g :: q =>
    if g.char = '.' then (spanVersionNumber q).map fun (minor, r) => (.version major minor, r)
    else none
  | [] => none

/-- Read the value of a tag directive. -/
def readHandle (s : List Glyph) : Option (Token × List Glyph) := do
  let (h, r) ← spanHandle (s.dropWhile (isBlank ·.char))
  if (h = ['!'] ∨ isHandle h) ∧ r.head?.any (isBlank ·.char) then
    let (bs, r) ← spanTagText true 0 (r.dropWhile (isBlank ·.char))
    if bs ≠ [] ∧ breaksOff r then some (.handle h bs, r) else none
  else none

/-- Read a directive whose percent sign has been read, up to the start of the next line. -/
def readDirective (s : List Glyph) : Option (Token × List Glyph) := do
  let (name, r) := spanName s
  if breaksOff r then
    let (t, r) ← if name = "YAML".toList then readVersion r
      else if name = "TAG".toList then readHandle r
      else none
    let r ← endLine? r
    some (t, r)
  else none

end VocalScore.Yaml
