import VocalScore.Files
import VocalScore.Text.Basic

/-!
# Files in memory

A `FileTree` holds the files below a directory, and `FileTree.read` reads a path in it the way an
operating system does: name by name, where every name but the last has to lead to a directory.
Nothing is known of directories that are not below the first one but that they are there.
-/

namespace VocalScore

/-- The files below a directory, each with the names that lead to it. -/
structure FileTree where
  files : List (List String × List UInt8)

namespace FileTree

/-- The names on a path. -/
def names (path : String) : List String := (Text.splitOn '/' path.toList).map String.ofList

/-- The greatest number of bytes that a name has. -/
def maxNameSize : Nat := 255

/-- The greatest number of bytes that a path has. -/
def maxPathSize : Nat := 4095

/-- The tree of files that are given by their paths. -/
def ofList (files : List (String × List UInt8)) : FileTree :=
  ⟨files.map fun (path, bytes) => ((names path).filter fun n => n ≠ "" ∧ n ≠ ".", bytes)⟩

/-- Where a path has led so far. -/
inductive Place where
  | file (bytes : List UInt8)
  /-- A directory of the tree, given by the names that lead to it. -/
  | directory (names : List String)
  /-- A directory that is not in the tree. -/
  | outside

/-- What a name leads to in a directory of the tree. -/
def enter (t : FileTree) (above : List String) (name : String) : Except FileFault Place :=
  let below := above ++ [name]
  if maxNameSize < name.utf8ByteSize then .error .nameTooLong
  else match t.files.lookup below with
    | some bytes => .ok (.file bytes)
    | none =>
      if t.files.any (below.isPrefixOf ·.1) then .ok (.directory below) else .error .notFound

/-- Go on from a place by a name. No name and a dot stay there, and two dots go back. -/
def step (t : FileTree) : Place → String → Except FileFault Place
  | .file _, _ => .error .notDirectory
  | .directory above, name =>
    if name = "" ∨ name = "." then .ok (.directory above)
    else if name = ".." then .ok (if above = [] then .outside else .directory above.dropLast)
    else t.enter above name
  | .outside, name =>
    if name = "" ∨ name = "." ∨ name = ".." then .ok .outside
    else .error (if maxNameSize < name.utf8ByteSize then .nameTooLong else .notFound)

/-- Read the file that a path leads to. -/
def read (t : FileTree) (path : String) : Except FileFault (List UInt8) :=
  if path = "" then .error .notFound
  else if maxPathSize < path.utf8ByteSize then .error .nameTooLong
  else
    let start := if path.toList.head? = some '/' then .outside else .directory []
    ((names path).foldlM t.step start).bind fun
      | .file bytes => .ok bytes
      | _ => .error .isDirectory

/-- Nothing lies below a file. -/
theorem foldlM_step_file (t : FileTree) (bytes : List UInt8) (name : String)
    (rest : List String) :
    (name :: rest).foldlM t.step (.file bytes) = .error .notDirectory := rfl

end FileTree

end VocalScore
