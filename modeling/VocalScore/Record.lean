/-!
# Records in data

Data formats hold a record as members with names, in any order, or as a list of the values of
its fields. Either way the data says something about each field, which is its `Slot`: its value,
or that a member of that name is missing, or that the list has ended before it. What is unknown
among the members is passed over, but a known name may stand only once.
-/

namespace VocalScore

/-- What data says about a field of a record. -/
inductive Slot (α : Type) where
  /-- The value of the field. -/
  | given (value : α)
  /-- No member has the name of the field. -/
  | missing
  /-- The list has no value for the field. -/
  | ended

namespace Slot

/-- The slot of a name among members, unless there are several. -/
def find? (members : List (String × α)) (name : String) : Option (Slot α) :=
  match members.filter (·.1 == name) with
  | [] => some .missing
  | [(_, v)] => some (.given v)
  | _ => none

/-- The slots of the fields with the given names among members. -/
def ofMembers? (names : List String) (members : List (String × α)) : Option (List (Slot α)) :=
  names.mapM (find? members)

/-- The slots of fields in a list, which may not be longer than there are fields. -/
def ofItems? (count : Nat) (items : List α) : Option (List (Slot α)) :=
  if items.length ≤ count then
    some (items.map .given ++ List.replicate (count - items.length) .ended)
  else none

/-- Read a field that has to be there. -/
def required (f : α → Option β) : Slot α → Option β
  | given v => f v
  | _ => none

/-- Read a field that has a default. -/
def orElse (default : β) (f : α → Option β) : Slot α → Option β
  | given v => f v
  | _ => some default

/-- Read a field whose member may be missing. -/
def orMissing (default : β) (f : α → Option β) : Slot α → Option β
  | given v => f v
  | missing => some default
  | ended => none

end Slot

end VocalScore
