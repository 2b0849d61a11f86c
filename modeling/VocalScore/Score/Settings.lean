import VocalScore.Score.Field

/-!
# Settings of a score

The settings hold the tempo, in beats per minute, paths and tools, and whether pitch is edited
by bends. The tempo and that choice are required.
-/

namespace VocalScore

/-- The settings of a score. -/
structure Settings where
  tempo : Float
  projectName : String
  project : String
  voiceDir : String
  outFile : String
  cacheDir : String
  tool1 : String
  tool2 : String
  mode2 : Bool
  deriving DecidableEq, Repr

namespace Settings

/-- Empty settings with a tempo. -/
def plain (tempo : Float) : Settings :=
  { tempo, projectName := "", project := "", voiceDir := "", outFile := "", cacheDir := "",
    tool1 := "", tool2 := "", mode2 := false }

/-- Read the tempo, which has to be finite and above zero. -/
def readTempo (raw : String) : Except ScoreError Float :=
  if raw = "" then .error .missingTempo
  else match Number.read raw.toList with
    | some t => if t.isFinite && 0.0 < t then .ok t else .error (.invalidNumber "Tempo" raw)
    | none => .error (.invalidNumber "Tempo" raw)

/-- Read whether pitch is edited by bends. -/
def readMode2 (s : Section) : Except ScoreError Bool :=
  if s.value "Mode2" = "" then .error (.missingField s.name "Mode2")
  else Field.flag "Mode2" (s.value "Mode2")

/-- Read the settings from their section. -/
def ofSection (s : Section) : Except ScoreError Settings := do
  let tempo ← readTempo (s.value "Tempo")
  let mode2 ← readMode2 s
  .ok { tempo, projectName := s.value "ProjectName", project := s.value "Project",
        voiceDir := s.value "VoiceDir", outFile := s.value "OutFile",
        cacheDir := s.value "CacheDir", tool1 := s.value "Tool1", tool2 := s.value "Tool2",
        mode2 }

end Settings

end VocalScore
