import VocalScore.Yaml.Token

/-!
# YAML values

A document is a tree of nodes: scalars, lists, mappings, and aliases that stand for another node.
A scalar remembers how it was written, because only without quotes it may stand for more than a
text. The keys of a mapping are nodes too, and its members are in their order, repeated keys
included.
-/

namespace VocalScore

/-- What is said about a node beside its content. -/
structure YamlProperties where
  /-- The number that aliases know the node by. -/
  anchor : Option Nat := none
  tag : Option (List UInt8) := none
  deriving DecidableEq, Repr

/-- A YAML value. -/
inductive Yaml where
  | scalar (properties : YamlProperties) (style : Yaml.Style) (text : List Char)
  | list (properties : YamlProperties) (items : List Yaml)
  | mapping (properties : YamlProperties) (members : List (Yaml × Yaml))
  | aliasTo (anchor : Nat)

namespace Yaml

/-- How the tags begin of the kinds that the format itself knows. -/
def coreKinds : List Char := "tag:yaml.org,2002:".toList

/-- The value that is written as nothing. -/
def nothing : Yaml := .scalar {} .plain []

/-- The number that aliases know a node by. -/
def anchor? : Yaml → Option Nat
  | scalar p _ _ | list p _ | mapping p _ => p.anchor
  | aliasTo _ => none

mutual

/-- A value and the values within it, in the order in which they begin. -/
def nodes : Yaml → List Yaml
  | list p is => list p is :: nodesOfItems is
  | mapping p ms => mapping p ms :: nodesOfMembers ms
  | y => [y]

/-- The values within the items of a list. -/
def nodesOfItems : List Yaml → List Yaml
  | [] => []
  | i :: is => nodes i ++ nodesOfItems is

/-- The values within the members of a mapping. -/
def nodesOfMembers : List (Yaml × Yaml) → List Yaml
  | [] => []
  | (k, v) :: ms => nodes k ++ nodes v ++ nodesOfMembers ms

end

/-- A document is the node that holds all others. -/
structure Document where
  root : Yaml

/-- The node that an alias stands for: of those with its number the last to begin. Other nodes
stand for themselves. -/
def Document.follow (d : Document) : Yaml → Yaml
  | aliasTo n => (d.root.nodes.reverse.find? (·.anchor? == some n)).getD (aliasTo n)
  | y => y

end Yaml

end VocalScore
