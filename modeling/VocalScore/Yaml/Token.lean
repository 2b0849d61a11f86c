import VocalScore.Yaml.Glyph

/-!
# Tokens

A YAML text is a row of tokens. The indentation of blocks is no part of it any more: where a
block begins and ends there are tokens, and every key of a mapping has one before it.
-/

namespace VocalScore.Yaml

/-- How a scalar is written. -/
inductive Style where
  | plain
  | singleQuoted
  | doubleQuoted
  | literal
  | folded
  deriving DecidableEq, Repr

/-- A token. -/
inductive Token where
  /-- The version of the format, as a directive before a document gives it. -/
  | version (major minor : Nat)
  /-- What a handle stands for, as a directive before a document gives it. -/
  | handle (name : List Char) (expansion : List UInt8)
  | documentStart
  | documentEnd
  | blockListStart
  | blockMappingStart
  | blockEnd
  | flowListStart
  | flowListEnd
  | flowMappingStart
  | flowMappingEnd
  /-- The dash before an item of a block list. -/
  | item
  /-- The comma between the parts of a flow collection. -/
  | separator
  /-- The place before a key. -/
  | key
  /-- The colon before a value. -/
  | value
  | aliasTo (name : List Char)
  | anchor (name : List Char)
  | tag (handle : List Char) (suffix : List UInt8)
  | scalar (style : Style) (text : List Char)
  deriving DecidableEq, Repr

end VocalScore.Yaml
