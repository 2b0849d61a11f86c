/-!
# Files that cannot be read

A `FileFault` is a reason why there are no bytes to read at a path, with the words that the
operating system has for it.
-/

namespace VocalScore

/-- Why a file cannot be read. -/
inductive FileFault where
  /-- There is nothing at the path. -/
  | notFound
  /-- The path leads through something that is not a directory. -/
  | notDirectory
  /-- There is a directory at the path. -/
  | isDirectory
  /-- The path or a name on it is too long. -/
  | nameTooLong
  /-- Any other reason. -/
  | other (message : String)
  deriving DecidableEq, Repr

namespace FileFault

/-- The reason in words. -/
def message : FileFault → String
  | notFound => "No such file or directory (os error 2)"
  | notDirectory => "Not a directory (os error 20)"
  | isDirectory => "Is a directory (os error 21)"
  | nameTooLong => "File name too long (os error 36)"
  | other m => m

/-- Whether the path leads to nothing. -/
def isAbsence : FileFault → Bool
  | notFound | notDirectory | nameTooLong => true
  | _ => false

end FileFault

end VocalScore
