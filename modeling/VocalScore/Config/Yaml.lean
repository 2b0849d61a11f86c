import VocalScore.Config.Basic
import VocalScore.Encoding.Utf8
import VocalScore.Yaml.Composition
import VocalScore.Yaml.Decode
import VocalScore.Yaml.Printer

/-!
# Configuration files

A configuration file is a YAML document of three mappings. `Config.load` makes a configuration
of what was found at the path of its file: without a file, everything has its default.
`Config.render` is the text of a configuration, and leaves out what it leaves out.
-/

namespace VocalScore

namespace ScoreConfig

/-- Read what is configured for scores. -/
def ofYaml? (d : Yaml.Document) (y : Yaml) : Option ScoreConfig := do
  match ← d.slots? fieldNames y with
  | [fallbackEncoding, window] =>
    return { fallbackEncoding := ← fallbackEncoding.orElse none (d.optional? d.text?)
             window := ← window.orElse none (d.optional? (d.nat? Config.maxCount)) }
  | _ => none

end ScoreConfig

namespace SampleTableConfig

/-- Read what is configured for sample tables. -/
def ofYaml? (d : Yaml.Document) (y : Yaml) : Option SampleTableConfig := do
  match ← d.slots? fieldNames y with
  | [encoding, comment, width, places] =>
    return { encoding := ← encoding.orElse none (d.optional? d.text?)
             comment := ← comment.orElse none (d.optional? d.char?)
             width := ← width.orElse none (d.optional? (d.nat? Config.maxCount))
             places := ← places.orElse none (d.optional? (d.nat? Config.maxCount)) }
  | _ => none

end SampleTableConfig

namespace PrefixMapConfig

/-- Read what is configured for prefix maps. -/
def ofYaml? (d : Yaml.Document) (y : Yaml) : Option PrefixMapConfig := do
  match ← d.slots? fieldNames y with
  | [encoding, delimiter, comment, sharps, octaves, descending] =>
    return { encoding := ← encoding.orElse none (d.optional? d.text?)
             delimiter := ← delimiter.orElse none (d.optional? d.char?)
             comment := ← comment.orElse none (d.optional? d.char?)
             sharps := ← sharps.orElse false d.bool?
             octaves := ← octaves.orElse .c0 fun y => (d.case? y).bind OctaveNumbering.ofName?
             descending := ← descending.orElse false d.bool? }
  | _ => none

end PrefixMapConfig

namespace Config

/-- Read a configuration. -/
def ofYaml? (d : Yaml.Document) : Option Config := do
  match ← d.slots? fieldNames d.root with
  | [scores, samples, prefixes] =>
    return { scores := ← scores.orElse {} (ScoreConfig.ofYaml? d)
             samples := ← samples.orElse {} (SampleTableConfig.ofYaml? d)
             prefixes := ← prefixes.orElse {} (PrefixMapConfig.ofYaml? d) }
  | _ => none

/-- Read the text of a configuration file. -/
def read (s : List Char) : Except ConfigError Config :=
  match (Yaml.Document.read s).bind ofYaml? with
  | some c => .ok c
  | none => .error .invalid

/-- Read the bytes of a configuration file. -/
def decode (bytes : List UInt8) : Except ConfigError Config :=
  if Utf8.isValid bytes then read (Utf8.decode bytes)
  else .error (.inaccessible "stream did not contain valid UTF-8")

/-- The configuration at a path where these bytes, or this fault, were found. -/
def load : Except FileFault (List UInt8) → Except ConfigError Config
  | .ok bytes => decode bytes
  | .error fault => if fault.isAbsence then .ok {} else .error (.inaccessible fault.message)

/-- The lines of a member. A value may end with the end of its last line. -/
def renderMember (name : String) (value : List Char) : List Char :=
  ' ' :: ' ' :: name.toList ++ ':' :: ' ' :: value
    ++ if value.getLast?.any Yaml.isBreak then [] else ['\n']

/-- The lines of a text, if there is one. -/
def renderText (name : String) (value : Option String) : List Char :=
  (value.map fun s => renderMember name (Yaml.written s.toList)).getD []

/-- The lines of a character, if there is one. -/
def renderChar (name : String) (value : Option Char) : List Char :=
  (value.map fun c => renderMember name (Yaml.inQuotes [c])).getD []

/-- The line of a count, if there is one. -/
def renderCount (name : String) (value : Option Nat) : List Char :=
  (value.map fun n => renderMember name (Text.decimal n)).getD []

/-- The line of a truth value. -/
def renderBool (name : String) (value : Bool) : List Char :=
  renderMember name (if value then "true" else "false").toList

/-- A mapping within the document, given the lines of its members. -/
def renderMapping (name : String) (members : List Char) : List Char :=
  name.toList ++ if members = [] then [':', ' ', '\x7b', '\x7d', '\n'] else ':' :: '\n' :: members

/-- The text of a configuration. -/
def render (c : Config) : List Char :=
  renderMapping "ust" (renderText "fallback_encoding" c.scores.fallbackEncoding
    ++ renderCount "sniff_len" c.scores.window)
  ++ renderMapping "oto" (renderText "encoding" c.samples.encoding
    ++ renderChar "comment" c.samples.comment ++ renderCount "float_width" c.samples.width
    ++ renderCount "float_precision" c.samples.places)
  ++ renderMapping "prefix_map" (renderText "encoding" c.prefixes.encoding
    ++ renderChar "delimiter" c.prefixes.delimiter ++ renderChar "comment" c.prefixes.comment
    ++ renderBool "sharps" c.prefixes.sharps
    ++ renderMember "octaves" c.prefixes.octaves.name.toList
    ++ renderBool "descending" c.prefixes.descending)

end Config

end VocalScore
