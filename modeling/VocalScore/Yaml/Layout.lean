import VocalScore.Yaml.Property
import VocalScore.Yaml.Scalar.Block
import VocalScore.Yaml.Scalar.Plain
import VocalScore.Yaml.Scalar.Quoted

/-!
# From layout to tokens

`tokens` reads the glyphs of a text as tokens. A `Layout` is what has to be known of the text so
far: the columns at which the open blocks begin, and which earlier tokens may turn out to begin a
key. A key is only known as such by the colon after it, which has to follow on the same line and
within 1024 bytes; then the token before the key is put in afterwards, and the token that
begins its mapping with it.

At the column of an open block a key has to come, so that a candidate there must not be given up.
Within brackets indentation does not count.
-/

namespace VocalScore.Yaml

/-- A place at which a key may have begun. -/
structure Candidate where
  /-- Whether a key has to begin here. -/
  required : Bool
  /-- How many tokens come before the key. -/
  token : Nat
  place : Glyph

/-- What has been read of a text. -/
structure Layout where
  /-- The tokens so far, the last one first. -/
  tokens : List Token := []
  /-- The number of tokens so far. -/
  count : Nat := 0
  /-- The column of the innermost open block. -/
  column : Int := -1
  /-- The columns of the blocks around it. -/
  outer : List Int := []
  /-- Whether a key may begin here. -/
  allowsKey : Bool := true
  /-- Where the key may have begun that a colon here would end. -/
  candidate : Option Candidate := none
  /-- The same for the collections around the innermost pair of brackets, one for each pair. -/
  suspended : List (Option Candidate) := []

namespace Layout

/-- The greatest number of bytes between the beginning of a key and its colon. -/
def maxKeyLength : Nat := 1024

/-- Whether some brackets are open. -/
def inFlow (l : Layout) : Bool := !l.suspended.isEmpty

/-- Add a token at the end. -/
def push (l : Layout) (t : Token) : Layout :=
  { l with tokens := t :: l.tokens, count := l.count + 1 }

/-- Add a token after the first `n`. -/
def insert (l : Layout) (n : Nat) (t : Token) : Layout :=
  let later := l.count - n
  { l with tokens := l.tokens.take later ++ t :: l.tokens.drop later, count := l.count + 1 }

/-- Open a block at a column if it is further in than the innermost one; its token comes after
the first `n`. -/
def openBlock (l : Layout) (column n : Nat) (t : Token) : Layout :=
  if !l.inFlow ∧ l.column < column then
    { l.insert n t with column, outer := l.column :: l.outer }
  else l

/-- The layout after closing those of the innermost block and the ones around it that are
further in than a column. -/
def closing (column : Int) : List Int → Layout → Layout
  | [], l => l
  | c :: cs, l =>
    if column < l.column then closing column cs { l.push .blockEnd with column := c, outer := cs }
    else l

/-- Close the blocks that are further in than a column. -/
def closeBlocks (l : Layout) (column : Int) : Layout :=
  if l.inFlow then l else closing column l.outer l

/-- Give up the candidate, which must not be required. -/
def giveUp (l : Layout) : Option Layout :=
  if l.candidate.any (·.required) then none else some { l with candidate := none }

/-- Whether a colon at a place comes too late for a candidate. -/
def isLate (g : Glyph) (c : Candidate) : Bool :=
  c.place.line < g.line || c.place.offset + maxKeyLength < g.offset

/-- Forget a candidate for which it is too late, which must not be required. -/
def refresh (g : Glyph) : Option Candidate → Option (Option Candidate)
  | none => some none
  | some c => if isLate g c then if c.required then none else some none else some (some c)

/-- Forget all candidates for which it is too late. -/
def refreshAll (l : Layout) (g : Glyph) : Option Layout := do
  let candidate ← refresh g l.candidate
  let suspended ← l.suspended.mapM (refresh g)
  some { l with candidate, suspended }

/-- Note that a key may begin at a place. -/
def nominate (l : Layout) (g : Glyph) : Option Layout :=
  if l.allowsKey then do
    let l ← l.giveUp
    some { l with candidate := some ⟨!l.inFlow && l.column = g.column, l.count, g⟩ }
  else some l

/-- Add a token that ends what comes before it and does not belong to a block. -/
def pushMark (l : Layout) (t : Token) : Option Layout := do
  let l ← (l.closeBlocks (-1)).giveUp
  some { l.push t with allowsKey := false }

/-- Add a token that may be a key, or begin one. -/
def pushNode (l : Layout) (g : Glyph) (t : Token) : Option Layout := do
  let l ← l.nominate g
  some { l.push t with allowsKey := false }

/-- Add an opening bracket. -/
def openFlow (l : Layout) (g : Glyph) (t : Token) : Option Layout := do
  let l ← l.nominate g
  some { l.push t with
    allowsKey := true, candidate := none, suspended := l.candidate :: l.suspended }

/-- Add a closing bracket. -/
def closeFlow (l : Layout) (t : Token) : Option Layout := do
  let l ← l.giveUp
  some { l.push t with
    allowsKey := false, candidate := l.suspended.head?.getD none, suspended := l.suspended.tail }

/-- Add a comma. -/
def pushSeparator (l : Layout) : Option Layout := do
  let l ← l.giveUp
  some { l.push .separator with allowsKey := true }

/-- Add a dash. -/
def pushItem (l : Layout) (g : Glyph) : Option Layout :=
  if l.inFlow || l.allowsKey then do
    let l ← (l.openBlock g.column l.count .blockListStart).giveUp
    some { l.push .item with allowsKey := true }
  else none

/-- Add a question mark. -/
def pushKey (l : Layout) (g : Glyph) : Option Layout :=
  if l.inFlow || l.allowsKey then do
    let l ← (l.openBlock g.column l.count .blockMappingStart).giveUp
    some { l.push .key with allowsKey := !l.inFlow }
  else none

/-- Add a colon. -/
def pushValue (l : Layout) (g : Glyph) : Option Layout :=
  match l.candidate with
  | some c =>
    let l := (l.insert c.token .key).openBlock c.place.column c.token .blockMappingStart
    some { l.push .value with candidate := none, allowsKey := false }
  | none =>
    if l.inFlow || l.allowsKey then
      let l := l.openBlock g.column l.count .blockMappingStart
      some { l.push .value with allowsKey := !l.inFlow }
    else none

/-- Drop white space, comments and breaks, and tell whether a key may begin after them. Only a
new line outside of brackets allows one; where a key may begin, no tab may stand before it. -/
def skip (flow allows comment : Bool) : List Glyph → Bool × List Glyph
  | [] => (allows, [])
  | g :: r =>
    if isBreak g.char then skip flow (allows || !flow) false r
    else if comment then skip flow allows true r
    else if g.char = '\uFEFF' && g.column = 0 then skip flow allows false r
    else if g.char = ' ' || (g.char = '\t' && (flow || !allows)) then skip flow allows false r
    else if g.char = '#' then skip flow allows true r
    else (allows, g :: r)

/-- Read the token that begins with a glyph. -/
def readToken (l : Layout) (g : Glyph) (r : List Glyph) : Option (Layout × List Glyph) :=
  let s := g :: r
  let rest (l : Option Layout) : Option (Layout × List Glyph) := l.map (·, r)
  let column := (l.column + 1).toNat
  if g.column = 0 && g.char = '%' then do
    let (t, r) ← readDirective r
    some (← l.pushMark t, r)
  else if isMarkOf '-' s then do some (← l.pushMark .documentStart, s.drop 3)
  else if isMarkOf '.' s then do some (← l.pushMark .documentEnd, s.drop 3)
  else if g.char = '-' && breaksOff r then rest (l.pushItem g)
  else if g.char = '?' && (l.inFlow || breaksOff r) then rest (l.pushKey g)
  else if g.char = ':' && (l.inFlow || breaksOff r) then rest (l.pushValue g)
  else if startsPlain l.inFlow s then do
    let (text, broken, r) ← readPlain l.inFlow column s
    let l ← l.pushNode g (.scalar .plain text)
    some ({ l with allowsKey := broken }, r)
  else match g.char with
    | '[' => rest (l.openFlow g .flowListStart)
    | '\x7b' => rest (l.openFlow g .flowMappingStart)
    | ']' => rest (l.closeFlow .flowListEnd)
    | '\x7d' => rest (l.closeFlow .flowMappingEnd)
    | ',' => rest l.pushSeparator
    | '*' => do
      let (name, r) ← readAnchor r
      some (← l.pushNode g (.aliasTo name), r)
    | '&' => do
      let (name, r) ← readAnchor r
      some (← l.pushNode g (.anchor name), r)
    | '!' => do
      let (t, r) ← readTag l.inFlow s
      some (← l.pushNode g t, r)
    | '\'' => do
      let (text, r) ← readQuoted false r
      some (← l.pushNode g (.scalar .singleQuoted text), r)
    | '"' => do
      let (text, r) ← readQuoted true r
      some (← l.pushNode g (.scalar .doubleQuoted text), r)
    | '|' | '>' =>
      if l.inFlow then none else do
        let literal := g.char = '|'
        let (text, r) ← readBlock literal l.column r
        let l ← l.giveUp
        let style := if literal then Style.literal else .folded
        some ({ l.push (.scalar style text) with allowsKey := true }, r)
    | _ => none

/-- Read tokens up to the end of the text, as many as the fuel allows. -/
def readFrom : Nat → Layout → List Glyph → Option Layout
  | 0, _, _ => none
  | fuel + 1, l, s =>
    let (allowsKey, s) := skip l.inFlow l.allowsKey false s
    let l := { l with allowsKey }
    match s with
    | [] => (l.closeBlocks (-1)).giveUp
    | g :: r => do
      let l ← l.refreshAll g
      let (l, s) ← (l.closeBlocks g.column).readToken g r
      readFrom fuel l s

end Layout

/-- The tokens of a text. -/
def tokens (s : List Glyph) : Option (List Token) :=
  (Layout.readFrom (s.length + 1) {} s).map (·.tokens.reverse)

end VocalScore.Yaml
