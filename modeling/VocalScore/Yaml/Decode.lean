import VocalScore.Encoding.Utf8
import VocalScore.Record
import VocalScore.Yaml.Basic
import VocalScore.Yaml.Meaning

/-!
# What YAML values stand for

Each function reads a value of a document as one kind of data. Any scalar is a text; only one
without quotes is a truth value, a whole number or nothing, or a literal block with the tag of
its kind. A record is a mapping, or nothing, which leaves all its fields out. Aliases are
followed everywhere.
-/

namespace VocalScore.Yaml.Document

/-- The tag of one of the kinds that the format itself knows. -/
def coreTag (kind : String) : List UInt8 := Utf8.encode (coreKinds ++ kind.toList)

/-- The text of a scalar. -/
def text? (d : Document) (y : Yaml) : Option String :=
  match d.follow y with
  | .scalar _ _ s => some (String.ofList s)
  | _ => none

/-- The text of a scalar that need not be a text; a literal block has to have the given tag. -/
def bare? (d : Document) (tag : List UInt8) (y : Yaml) : Option (List Char) :=
  match d.follow y with
  | .scalar _ .plain s => some s
  | .scalar p .literal s => if p.tag = some tag then some s else none
  | _ => none

/-- A truth value. -/
def bool? (d : Document) (y : Yaml) : Option Bool := (d.bare? (coreTag "bool") y).bind boolOf?

/-- A whole number from zero to a bound. -/
def nat? (d : Document) (bound : Nat) (y : Yaml) : Option Nat :=
  (d.bare? (coreTag "int") y).bind (natOf? bound)

/-- The only character of a scalar. -/
def char? (d : Document) (y : Yaml) : Option Char :=
  match d.follow y with
  | .scalar _ _ [c] => some c
  | _ => none

/-- A value that may be nothing. A scalar with a tag is nothing only if the tag says so. -/
def optional? (d : Document) (f : Yaml → Option α) (y : Yaml) : Option (Option α) :=
  match d.follow y with
  | .scalar p .plain s =>
    match p.tag with
    | none => if isNothing s then some none else (f y).map some
    | some t =>
      if t = coreTag "null" then if isNull s then some none else none else (f y).map some
  | _ => (f y).map some

/-- The key of a member as a name. -/
def name? (d : Document) : Yaml × Yaml → Option (String × Yaml)
  | (k, v) => (d.text? k).map fun name => (name, v)

/-- The slots of the fields of a record. -/
def slots? (d : Document) (names : List String) (y : Yaml) : Option (List (Slot Yaml)) :=
  match d.follow y with
  | .mapping _ ms => (ms.mapM d.name?).bind (Slot.ofMembers? names)
  | .scalar _ .plain [] => Slot.ofMembers? names []
  | _ => none

/-- The name of a case that a tag gives: what comes after its mark. -/
def caseOf? : Option (List UInt8) → Option String
  | some (b :: bs) =>
    if b = 0x21 ∧ Utf8.isValid bs then some (String.ofList (Utf8.decode bs)) else none
  | _ => none

/-- The name of a case without content. A tag may give it, and otherwise it is the text of a
scalar. -/
def case? (d : Document) (y : Yaml) : Option String :=
  match d.follow y with
  | .scalar p style s =>
    match caseOf? p.tag with
    | some name => if style = .plain ∧ isNothing s then some name else none
    | none => some (String.ofList s)
  | _ => none

end VocalScore.Yaml.Document
