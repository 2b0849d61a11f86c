import VocalScore.Command.Run

/-!
# The program

Reads the files and prints what a run leaves behind.
-/

namespace VocalScore.Command

/-- Whether a reported code is the given one; some calls report its negative. -/
def isCode (code reported : UInt32) : Bool := reported = code || reported = 0 - code

/-- The fault that an error of the operating system is. -/
def faultOf : IO.Error → FileFault
  | .noFileOrDirectory .. => .notFound
  | .inappropriateType _ code details =>
    if isCode 20 code then .notDirectory
    else if isCode 21 code then .isDirectory
    else .other details
  | .invalidArgument _ code details =>
    if isCode 36 code then .nameTooLong else .other details
  | e => .other (toString e)

/-- Read a file. -/
def readFile (path : String) : IO (Except FileFault (List UInt8)) := do
  match ← (IO.FS.readBinFile path).toBaseIO with
  | .ok bytes => return .ok bytes.toList
  | .error e => return .error (faultOf e)

end VocalScore.Command

/-- Run the program and print the outcome. -/
def main (arguments : List String) : IO UInt32 := do
  let files := VocalScore.Command.readFile
  let outcome ← VocalScore.Command.run files (← IO.getEnv "HOME") arguments
  let output ← IO.getStdout
  output.write outcome.output.toByteArray
  output.flush
  if let some message := outcome.message then IO.eprintln message
  return outcome.exit
