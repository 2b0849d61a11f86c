import VocalScore.Yaml.Basic
import VocalScore.Yaml.Layout

/-!
# From tokens to a document

`Document.read` reads a text that holds one document at most; a text without one counts as a
document of nothing. The functions of this module read a node, or the parts of a collection, from
the tokens that are left, and use up one unit of fuel for each step.

An anchor gets as its number how many names have been bound before it. A name that is bound again
counts once, so that two anchors can have one number; aliases then stand for the later one.
-/

namespace VocalScore.Yaml

/-- What is left to read, and the anchors so far. -/
structure Remainder where
  tokens : List Token
  /-- The numbers of names; the latest binding comes first. -/
  anchors : List (List Char × Nat) := []

/-- Reading a part of a document. -/
abbrev Composition := StateT Remainder Option

namespace Composition

/-- The next token. -/
def peek : Composition (Option Token) := do return (← get).tokens.head?

/-- Pass over a token. -/
def advance : Composition Unit := modify fun r => { r with tokens := r.tokens.tail }

/-- Pass over the next token, which has to be the given one. -/
def expect (t : Token) : Composition Unit := do
  if (← peek) = some t then advance else failure

/-- Whether the next token is one of those given. -/
def isNext (ts : List Token) : Composition Bool := do return (← peek).any (ts.contains ·)

/-- Bind a name, and give its number. -/
def bind (name : List Char) : Composition Nat := do
  let anchors := (← get).anchors
  let number := anchors.length
  set { (← get) with anchors := (name, number) :: anchors.filter (·.1 ≠ name) }
  return number

/-- The meaning of handles. -/
abbrev Handles := List (List Char × List UInt8)

/-- What the handles mean that no directive mentions. -/
def defaultHandles : Handles :=
  [(['!'], Utf8.encode ['!']), (['!', '!'], Utf8.encode coreKinds)]

/-- The tag of a handle and a suffix. -/
def tagOf? (handles : Handles) (handle : List Char) (suffix : List UInt8) :
    Option (List UInt8) :=
  if handle = [] then some suffix else (handles.lookup handle).map (· ++ suffix)

/-- Read an anchor, if there is one. -/
def anchor : Composition (Option Nat) := do
  match ← peek with
  | some (.anchor name) => advance; some <$> bind name
  | _ => return none

/-- Read a tag, if there is one. -/
def tag (handles : Handles) : Composition (Option (List UInt8)) := do
  match ← peek with
  | some (.tag handle suffix) =>
    advance
    match tagOf? handles handle suffix with
    | some t => return some t
    | none => failure
  | _ => return none

/-- Read an anchor and a tag, in either order. -/
def properties (handles : Handles) : Composition YamlProperties := do
  match ← anchor with
  | some a => return { anchor := some a, tag := ← tag handles }
  | none =>
    match ← tag handles with
    | some t => return { anchor := ← anchor, tag := some t }
    | none => return {}

/-- The properties of a scalar that is written out, for which the tag of a single mark says
nothing. -/
def scalarProperties (p : YamlProperties) : YamlProperties :=
  if p.tag = some (Utf8.encode ['!']) then { p with tag := none } else p

/-- Tokens before which the part of a flow list ends. -/
def listEnds : List Token := [.separator, .flowListEnd]

/-- Tokens before which the part of a flow mapping ends. -/
def mappingEnds : List Token := [.separator, .flowMappingEnd]

/-- Tokens before which the part of a block mapping ends. -/
def memberEnds : List Token := [.key, .value, .blockEnd]

mutual

/-- Read a node. `block` says whether it may be a block collection, and `level` whether it may be
a block list whose dashes stand at the column of the mapping around it. -/
def node (handles : Handles) (block level : Bool) : Nat → Composition Yaml
  | 0 => failure
  | fuel + 1 => do
    match ← peek with
    | some (.aliasTo name) =>
      advance
      match (← get).anchors.lookup name with
      | some n => return .aliasTo n
      | none => failure
    | _ =>
      let p ← properties handles
      match ← peek, block, level with
      | some .item, _, true => .list p <$> levelItems handles fuel
      | some (.scalar style text), _, _ => advance; return .scalar (scalarProperties p) style text
      | some .flowListStart, _, _ => advance; .list p <$> flowItems handles true fuel
      | some .flowMappingStart, _, _ => advance; .mapping p <$> flowMembers handles true fuel
      | some .blockListStart, true, _ => advance; .list p <$> blockItems handles fuel
      | some .blockMappingStart, true, _ => advance; .mapping p <$> blockMembers handles fuel
      | _, _, _ =>
        if p = {} then failure else return .scalar p .plain []

/-- Read a node, unless one of the given tokens comes first. -/
def nodeBefore (handles : Handles) (block level : Bool) (ends : List Token) :
    Nat → Composition Yaml
  | 0 => failure
  | fuel + 1 => do
    if ← isNext ends then return nothing else node handles block level fuel

/-- Read the items of a block list. -/
def blockItems (handles : Handles) : Nat → Composition (List Yaml)
  | 0 => failure
  | fuel + 1 => do
    if ← isNext [.blockEnd] then advance; return []
    expect .item
    let i ← nodeBefore handles true false [.item, .blockEnd] fuel
    return i :: (← blockItems handles fuel)

/-- Read the items of a block list whose dashes stand at the column of the mapping around it. -/
def levelItems (handles : Handles) : Nat → Composition (List Yaml)
  | 0 => failure
  | fuel + 1 => do
    if ← isNext [.item] then
      advance
      let i ← nodeBefore handles true false (.item :: memberEnds) fuel
      return i :: (← levelItems handles fuel)
    return []

/-- Read the members of a block mapping. -/
def blockMembers (handles : Handles) : Nat → Composition (List (Yaml × Yaml))
  | 0 => failure
  | fuel + 1 => do
    if ← isNext [.blockEnd] then advance; return []
    expect .key
    let k ← nodeBefore handles true true memberEnds fuel
    let v ← value handles true memberEnds fuel
    return (k, v) :: (← blockMembers handles fuel)

/-- Read the colon and the value of a member, either of which may be left out. -/
def value (handles : Handles) (block : Bool) (ends : List Token) : Nat → Composition Yaml
  | 0 => failure
  | fuel + 1 => do
    if ← isNext [.value] then
      advance
      nodeBefore handles block block ends fuel
    else return nothing

/-- Read the items of a flow list. -/
def flowItems (handles : Handles) (first : Bool) : Nat → Composition (List Yaml)
  | 0 => failure
  | fuel + 1 => do
    if ← isNext [.flowListEnd] then advance; return []
    if !first then expect .separator
    if ← isNext [.flowListEnd] then advance; return []
    let i ← if ← isNext [.key] then flowPair handles fuel else node handles false false fuel
    return i :: (← flowItems handles false fuel)

/-- Read a mapping of one member, which may stand without brackets in a flow list. A token that
stands in place of its key is passed over. -/
def flowPair (handles : Handles) : Nat → Composition Yaml
  | 0 => failure
  | fuel + 1 => do
    expect .key
    let k ← if ← isNext (.value :: listEnds) then advance; pure nothing
      else node handles false false fuel
    let v ← value handles false listEnds fuel
    return .mapping {} [(k, v)]

/-- Read the members of a flow mapping. A key without a mark before it has no value. -/
def flowMembers (handles : Handles) (first : Bool) : Nat → Composition (List (Yaml × Yaml))
  | 0 => failure
  | fuel + 1 => do
    if ← isNext [.flowMappingEnd] then advance; return []
    if !first then expect .separator
    if ← isNext [.flowMappingEnd] then advance; return []
    let m ← if ← isNext [.key] then do
        advance
        let k ← nodeBefore handles false false (.value :: mappingEnds) fuel
        let v ← value handles false mappingEnds fuel
        pure (k, v)
      else do pure (← node handles false false fuel, nothing)
    return m :: (← flowMembers handles false fuel)

end

/-- Read directives. A version may be given once, and so may the meaning of a handle. -/
def directives (versioned : Bool) (handles : Handles) : Nat → Composition Handles
  | 0 => failure
  | fuel + 1 => do
    match ← peek with
    | some (.version major minor) =>
      if versioned || major ≠ 1 || (minor ≠ 1 && minor ≠ 2) then failure
      advance
      directives true handles fuel
    | some (.handle name expansion) =>
      if (handles.lookup name).isSome then failure
      advance
      directives versioned (handles ++ [(name, expansion)]) fuel
    | _ => return handles ++ defaultHandles

/-- Read the node of a document. -/
def root (fuel : Nat) : Composition Yaml := do
  match ← peek with
  | none => return nothing
  | some (.version ..) | some (.handle ..) | some .documentStart =>
    let handles ← directives false [] fuel
    expect .documentStart
    match ← peek with
    | none | some (.version ..) | some (.handle ..) | some .documentStart
    | some .documentEnd => return nothing
    | _ => node handles true false fuel
  | _ => node defaultHandles true false fuel

end Composition

/-- Read a text that holds one document. -/
def Document.read (s : List Char) : Option Document := do
  if s.all isAllowed then
    let ts ← tokens (place s)
    let (root, rest) ← (Composition.root (8 * ts.length + 8)).run { tokens := ts }
    if rest.tokens.all (· = .documentEnd) then some ⟨root⟩ else none
  else none

end VocalScore.Yaml
