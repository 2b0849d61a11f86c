/-!
# Arguments of the program

A command line holds operands, flags and options with a value. An option has its value after an
equals sign or as the next argument, which may not look like an option itself. `--` makes
operands of all that follows. Nothing may stand twice, and no value or operand may be empty.

The first operand names an activity, which says what may follow; `--config` may stand before it
and after it, and after it counts.
-/

namespace VocalScore.Command

/-- What a row of arguments may hold. -/
structure Shape where
  /-- How many operands there have to be. -/
  operands : Nat
  flags : List String
  options : List String

/-- What a row of arguments holds. -/
structure Found where
  operands : List String := []
  flags : List String := []
  options : List (String × String) := []

/-- Why a row of arguments is not read on. -/
inductive Stop where
  | misuse
  | help
  | version
  deriving DecidableEq, Repr

/-- Whether an argument looks like a flag or an option. -/
def looksLikeOption (a : String) : Bool := a.toList.head? == some '-' && a != "-"

/-- Whether an argument looks like a short flag, given its letter. -/
def isShort (letter : Char) (a : String) : Bool := ['-', letter].isPrefixOf a.toList

/-- The name of an option, and its value if an equals sign follows the name. -/
def splitOption (a : String) : String × Option String :=
  let name := a.toList.takeWhile (· ≠ '=')
  (String.ofList name, ((a.toList.drop name.length).head?.map fun _ =>
    String.ofList (a.toList.drop (name.length + 1))))

/-- The value of an option and the arguments after it. -/
def valueOf (inline : Option String) (rest : List String) : Except Stop (String × List String) :=
  match inline, rest with
  | some v, rest => if v = "" then .error .misuse else .ok (v, rest)
  | none, [] => .error .misuse
  | none, v :: rest => if v = "" || looksLikeOption v then .error .misuse else .ok (v, rest)

namespace Found

/-- Add an operand. -/
def addOperand (shape : Shape) (f : Found) (a : String) : Except Stop Found :=
  if a ≠ "" ∧ f.operands.length < shape.operands then
    .ok { f with operands := f.operands ++ [a] }
  else .error .misuse

/-- Add a flag. -/
def addFlag (shape : Shape) (f : Found) (a : String) : Except Stop Found :=
  if a ∈ shape.flags ∧ a ∉ f.flags then .ok { f with flags := f.flags ++ [a] }
  else .error .misuse

/-- Add an option. -/
def addOption (f : Found) (name value : String) : Except Stop Found :=
  if (f.options.lookup name).isNone then .ok { f with options := f.options ++ [(name, value)] }
  else .error .misuse

/-- Read a row of arguments, up to as many as the fuel allows. -/
def readArguments (shape : Shape) : Nat → Found → List String → Except Stop Found
  | 0, _, _ => .error .misuse
  | _ + 1, f, [] =>
    if f.operands.length = shape.operands then .ok f else .error .misuse
  | fuel + 1, f, a :: rest =>
    if a = "--" then do
      -- Everything that is left is an operand, whatever it looks like.
      let f ← rest.foldlM (addOperand shape) f
      readArguments shape fuel f []
    else if !looksLikeOption a then do
      let f ← addOperand shape f a
      readArguments shape fuel f rest
    else if a = "--help" || isShort 'h' a then .error .help
    else
      let (name, inline) := splitOption a
      if name ∈ shape.options then do
        let (value, rest) ← valueOf inline rest
        let f ← addOption f name value
        readArguments shape fuel f rest
      else do
        let f ← addFlag shape f a
        readArguments shape fuel f rest

/-- Read a row of arguments. -/
def read (shape : Shape) (arguments : List String) : Except Stop Found :=
  readArguments shape (arguments.length + 1) {} arguments

end Found

/-- What the program is asked to do. -/
inductive Action where
  /-- Print a score as JSON. -/
  | score (path : String)
  /-- Print the timeline of a score as JSON. -/
  | timeline (path : String)
  /-- Print a sample table, as text or as JSON. -/
  | samples (path : String) (json : Bool)
  /-- Print a prefix map, with accidentals as configured or as sharps. -/
  | prefixes (path : String) (sharps : Bool)
  /-- Print the samples of a score. -/
  | lookup (table score : String) (map : Option String)
  deriving DecidableEq, Repr

/-- An action, and the path of the configuration if one is given. -/
structure Request where
  config : Option String
  action : Action
  deriving DecidableEq, Repr

/-- An option that goes with every activity. -/
def configOption : String := "--config"

/-- An activity of the program: its name, what follows the name, and the action that this
makes. -/
structure Activity where
  name : String
  shape : Shape
  action : Found → Option Action

/-- The activities of the program. -/
def activities : List Activity :=
  [ { name := "ust"
      shape := ⟨1, [], [configOption]⟩
      action := fun f => f.operands.head?.map .score },
    { name := "seq"
      shape := ⟨1, [], [configOption]⟩
      action := fun f => f.operands.head?.map .timeline },
    { name := "oto"
      shape := ⟨1, ["--json"], [configOption]⟩
      action := fun f => f.operands.head?.map (.samples · (f.flags.contains "--json")) },
    { name := "prefix"
      shape := ⟨1, ["--sharps"], [configOption]⟩
      action := fun f => f.operands.head?.map (.prefixes · (f.flags.contains "--sharps")) },
    { name := "lookup"
      shape := ⟨2, [], [configOption, "--prefix-map"]⟩
      action := fun f =>
        match f.operands with
        | [table, score] => some (.lookup table score (f.options.lookup "--prefix-map"))
        | _ => none } ]

/-- The activity of printing how the program is used, or one of its activities. -/
def helpActivity : String := "help"

/-- Whether a word names an activity. -/
def isActivity (a : String) : Bool := a = helpActivity || activities.any (·.name == a)

/-- Why the arguments after the word for help are not read on: at most one activity is named. -/
def helpStop : List String → Stop
  | [] => .help
  | [a] => if isActivity a then .help else .misuse
  | _ => .misuse

/-- Read the arguments after the name of an activity. -/
def Activity.request (activity : Activity) (config : Option String) (arguments : List String) :
    Except Stop Request := do
  let found ← Found.read activity.shape arguments
  match activity.action found with
  | some action => .ok { config := (found.options.lookup configOption).or config, action }
  | none => .error .misuse

/-- Read arguments up to the name of an activity and on, given the configuration named so far. -/
def requestFrom : Option String → Nat → List String → Except Stop Request
  | _, 0, _ => .error .misuse
  | _, _ + 1, [] => .error .misuse
  | config, fuel + 1, a :: rest =>
    if looksLikeOption a then
      if a = "--version" || isShort 'V' a then .error .version
      else if a = "--help" || isShort 'h' a then .error .help
      else
        let (name, inline) := splitOption a
        if name = configOption ∧ config = none then do
          let (value, rest) ← valueOf inline rest
          requestFrom (some value) fuel rest
        else .error .misuse
    else if a = helpActivity then .error (helpStop rest)
    else match activities.find? (·.name == a) with
      | some activity => activity.request config rest
      | none => .error .misuse

/-- Read the arguments of the program. -/
def request (arguments : List String) : Except Stop Request :=
  requestFrom none (arguments.length + 1) arguments

end VocalScore.Command
