import VocalScore.Encoding.Declared
import VocalScore.Files
import VocalScore.Score.Basic
import VocalScore.Text.Quoted
import VocalScore.Voicebank.SampleTable

/-!
# Configuration

A configuration says how scores, sample tables and prefix maps are read and written. It may
leave out anything; what it leaves out has the default of the options in question. Encodings go
by their labels, which are looked up when options are made of a configuration.
-/

namespace VocalScore

/-- What is configured for scores. -/
structure ScoreConfig where
  fallbackEncoding : Option String := none
  window : Option Nat := none
  deriving DecidableEq, Repr

/-- The names of the fields of a record of what is configured for scores. -/
def ScoreConfig.fieldNames : List String := ["fallback_encoding", "sniff_len"]

/-- What is configured for sample tables. -/
structure SampleTableConfig where
  encoding : Option String := none
  comment : Option Char := none
  width : Option Nat := none
  places : Option Nat := none
  deriving DecidableEq, Repr

/-- The names of the fields of a record of what is configured for sample tables. -/
def SampleTableConfig.fieldNames : List String :=
  ["encoding", "comment", "float_width", "float_precision"]

/-- What is configured for prefix maps. -/
structure PrefixMapConfig where
  encoding : Option String := none
  delimiter : Option Char := none
  comment : Option Char := none
  sharps : Bool := false
  octaves : OctaveNumbering := .c0
  descending : Bool := false
  deriving DecidableEq, Repr

/-- The names of the fields of a record of what is configured for prefix maps. -/
def PrefixMapConfig.fieldNames : List String :=
  ["encoding", "delimiter", "comment", "sharps", "octaves", "descending"]

/-- A configuration. -/
structure Config where
  scores : ScoreConfig := {}
  samples : SampleTableConfig := {}
  prefixes : PrefixMapConfig := {}
  deriving DecidableEq, Repr

/-- The names of the fields of a configuration. -/
def Config.fieldNames : List String := ["ust", "oto", "prefix_map"]

/-- Why a configuration cannot be used. -/
inductive ConfigError where
  /-- Its file cannot be read. -/
  | inaccessible (reason : String)
  /-- Its text is no configuration. -/
  | invalid
  /-- A label that names no encoding. -/
  | unknownEncoding (label : String)
  deriving DecidableEq, Repr

/-- The error in words. -/
def ConfigError.message : ConfigError → String
  | inaccessible reason => "failed to access config file: " ++ reason
  | invalid => "invalid config file"
  | unknownEncoding label => "unknown encoding in config: " ++ Text.quoted label

namespace Config

/-- The greatest count that can be configured. -/
def maxCount : Nat := UInt64.size - 1

/-- The encoding with a label, or a default if there is no label. -/
def encodingOr (default : Encoding) : Option String → Except ConfigError Encoding
  | none => .ok default
  | some label =>
    match Encoding.ofText? label.toList with
    | some e => .ok e
    | none => .error (.unknownEncoding label)

/-- The options for scores. -/
def scoreOptions (c : ScoreConfig) : Except ConfigError ScoreOptions :=
  let default : ScoreOptions := {}
  (encodingOr default.fallback c.fallbackEncoding).map fun fallback =>
    { fallback, window := c.window.getD default.window }

/-- The options for sample tables. -/
def sampleTableOptions (c : SampleTableConfig) : Except ConfigError SampleTableOptions :=
  let default : SampleTableOptions := {}
  (encodingOr default.encoding c.encoding).map fun encoding =>
    { encoding, comment := c.comment.or default.comment, width := c.width.getD default.width,
      places := c.places.or default.places }

/-- The options for prefix maps. -/
def prefixMapOptions (c : PrefixMapConfig) : Except ConfigError PrefixMapOptions :=
  let default : PrefixMapOptions := {}
  (encodingOr default.encoding c.encoding).map fun encoding =>
    { encoding, delimiter := c.delimiter.getD default.delimiter,
      comment := c.comment.or default.comment, sharps := c.sharps, octaves := c.octaves,
      order := if c.descending then highestFirst else compare }

/-- Pitches are written in the direction that is configured. -/
theorem descending_of_prefixMapOptions {c : PrefixMapConfig} {o : PrefixMapOptions}
    (h : prefixMapOptions c = .ok o) : o.descending = c.descending := by
  rw [prefixMapOptions] at h
  cases hencoding : encodingOr ({} : PrefixMapOptions).encoding c.encoding with
  | error e => simp [hencoding, Except.map] at h
  | ok e =>
    simp only [hencoding, Except.map, Except.ok.injEq] at h
    rw [← h, PrefixMapOptions.descending]
    cases c.descending <;> rfl

/-- A label that an encoding has is as good as the encoding. -/
theorem encodingOr_of_ofText? {default e : Encoding} {label : String}
    (h : Encoding.ofText? label.toList = some e) : encodingOr default (some label) = .ok e := by
  simp [encodingOr, h]

end Config

end VocalScore
