import VocalScore.Command.Arguments
import VocalScore.Config.Yaml
import VocalScore.Json.Printer
import VocalScore.Score.Json
import VocalScore.Timeline.Json
import VocalScore.Voicebank.Json
import VocalScore.Voicebank.Resolution

/-!
# Runs of the program

`run` reads files through a function that it is given, so that the same definition serves the
program and a set of files in memory. A run first loads the configuration; it ends with the
first fault, and then prints nothing but a message.
-/

namespace VocalScore.Command

/-- The name and the version of the program. -/
def programName : String := "utau-dump"

/-- The version of the program. -/
def programVersion : String := "0.1.0"

/-- Why a run ends without a result. -/
inductive Fault where
  | config (e : ConfigError)
  | file (path : String) (fault : FileFault)
  | score (e : ScoreError)
  | voicebank (e : VoicebankError)

/-- The fault in words. -/
def Fault.message : Fault → String
  | config e => e.message
  | file path fault => path ++ ": " ++ fault.message
  | score e => e.message
  | voicebank e => e.message

/-- What a run leaves behind. -/
structure Outcome where
  /-- Zero for success, one for a fault, two for a misuse. -/
  exit : UInt32
  output : List UInt8 := []
  message : Option String := none
  deriving DecidableEq, Repr

/-- Where the configuration is if no path is given. -/
def defaultConfig (home : Option String) : String := home.getD "." ++ "/.utau-codec/config.yaml"

/-- How files are read. -/
abbrev Reader (m : Type → Type) := String → m (Except FileFault (List UInt8))

variable {m : Type → Type} [Monad m]

/-- Go on with a result, or end with a fault. -/
def orFault (fault : ε → Fault) : Except ε α → ExceptT Fault m α
  | .ok x => pure x
  | .error e => throw (fault e)

/-- The bytes of a file. -/
def fetch (files : Reader m) (path : String) : ExceptT Fault m (List UInt8) := do
  orFault (.file path) (← files path)

/-- A value as printed JSON. -/
def printed (j : Json) : List UInt8 := Utf8.encode (j.render ++ ['\n'])

/-- The score in a file. -/
def fetchScore (files : Reader m) (config : Config) (path : String) : ExceptT Fault m Score := do
  -- A file that cannot be read is reported before a fault of the configuration.
  let bytes ← fetch files path
  let options ← orFault .config (Config.scoreOptions config.scores)
  orFault .score (Score.decode bytes options)

/-- Do what is asked, under a configuration. -/
def perform (files : Reader m) (config : Config) : Action → ExceptT Fault m (List UInt8)
  | .score path => do
    let score ← fetchScore files config path
    return printed score.toJson
  | .timeline path => do
    let score ← fetchScore files config path
    return printed (Timeline.ofScore score).toJson
  | .samples path json => do
    let options ← orFault .config (Config.sampleTableOptions config.samples)
    let bytes ← fetch files path
    let table ← orFault .voicebank (SampleTable.decode options bytes)
    return if json then printed table.toJson else table.encode options
  | .prefixes path sharps => do
    let options ← orFault .config (Config.prefixMapOptions config.prefixes)
    let options := { options with sharps := options.sharps || sharps }
    let bytes ← fetch files path
    let map ← orFault .voicebank (PrefixMap.decode options bytes)
    return map.encode options
  | .lookup table score map => do
    let options ← orFault .config (Config.sampleTableOptions config.samples)
    let bytes ← fetch files table
    let table ← orFault .voicebank (SampleTable.decode options bytes)
    let score ← fetchScore files config score
    let map ← match map with
      | none => pure none
      | some path => do
        -- Here too the file comes first.
        let bytes ← fetch files path
        let options ← orFault .config (Config.prefixMapOptions config.prefixes)
        some <$> orFault .voicebank (PrefixMap.decode options bytes)
    return (table.resolve map score.notes).encode options

/-- Do what is asked, under the configuration that goes with it. -/
def answer (files : Reader m) (home : Option String) (r : Request) :
    ExceptT Fault m (List UInt8) := do
  let found ← files (r.config.getD (defaultConfig home))
  let config ← orFault .config (Config.load found)
  perform files config r.action

/-- The outcome of an answer. -/
def Outcome.ofAnswer : Except Fault (List UInt8) → Outcome
  | .ok output => { exit := 0, output }
  | .error fault => { exit := 1, message := some (programName ++ ": " ++ fault.message) }

/-- How the program is used. -/
def usage : String :=
  "Usage: " ++ programName ++ " [--config FILE] ACTIVITY FILE...\n\n"
    ++ "  ust FILE                          print a score as JSON\n"
    ++ "  seq FILE                          print the timeline of a score as JSON\n"
    ++ "  oto [--json] FILE                 print a sample table\n"
    ++ "  prefix [--sharps] FILE            print a prefix map\n"
    ++ "  lookup TABLE SCORE [--prefix-map FILE]\n"
    ++ "                                    print the samples of a score\n"

/-- Run the program. -/
def run (files : Reader m) (home : Option String) (arguments : List String) : m Outcome := do
  match request arguments with
  | .error .version =>
    return { exit := 0
             output := Utf8.encode (programName ++ " " ++ programVersion ++ "\n").toList }
  | .error .help => return { exit := 0, output := Utf8.encode usage.toList }
  | .error .misuse => return { exit := 2, message := some usage }
  | .ok r => return Outcome.ofAnswer (← (answer files home r).run)

end VocalScore.Command
