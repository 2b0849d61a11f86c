import VocalScore.Config.Basic
import VocalScore.Json.Decode

/-!
# Configurations as JSON

A configuration is a record of three records. Everything in it may be left out, and what is left
out is not written either, apart from the records and what a prefix map always has.
-/

namespace VocalScore

/-- The JSON form of a numbering of octaves. -/
def OctaveNumbering.toJson (o : OctaveNumbering) : Json := .text o.name

/-- Read a numbering of octaves. -/
def OctaveNumbering.ofJson? (j : Json) : Option OctaveNumbering := j.name?.bind ofName?

/-- A member for a value, if there is one. -/
def Json.memberOf (name : String) (f : α → Json) (value : Option α) : List (String × Json) :=
  match value with
  | some x => [(name, f x)]
  | none => []

/-- A count. -/
def Json.count (n : Nat) : Json := .whole n

/-- Read a count. -/
def Json.count? (j : Json) : Option Nat := j.nat? Config.maxCount

/-- Read a field that may be left out or null. -/
def Slot.leftOut (f : Json → Option α) : Slot Json → Option (Option α) :=
  orElse none (Json.optional? f)

namespace ScoreConfig

/-- The JSON form of what is configured for scores. -/
def toJson (c : ScoreConfig) : Json :=
  .record (Json.memberOf "fallback_encoding" .text c.fallbackEncoding
    ++ Json.memberOf "sniff_len" .count c.window)

/-- Read what is configured for scores. -/
def ofJson? (j : Json) : Option ScoreConfig := do
  match ← j.slots? fieldNames with
  | [fallbackEncoding, window] =>
    return { fallbackEncoding := ← fallbackEncoding.leftOut Json.text?
             window := ← window.leftOut Json.count? }
  | _ => none

end ScoreConfig

namespace SampleTableConfig

/-- The JSON form of what is configured for sample tables. -/
def toJson (c : SampleTableConfig) : Json :=
  .record (Json.memberOf "encoding" .text c.encoding ++ Json.memberOf "comment" .char c.comment
    ++ Json.memberOf "float_width" .count c.width
    ++ Json.memberOf "float_precision" .count c.places)

/-- Read what is configured for sample tables. -/
def ofJson? (j : Json) : Option SampleTableConfig := do
  match ← j.slots? fieldNames with
  | [encoding, comment, width, places] =>
    return { encoding := ← encoding.leftOut Json.text?
             comment := ← comment.leftOut Json.char?
             width := ← width.leftOut Json.count?
             places := ← places.leftOut Json.count? }
  | _ => none

end SampleTableConfig

namespace PrefixMapConfig

/-- The JSON form of what is configured for prefix maps. -/
def toJson (c : PrefixMapConfig) : Json :=
  .record (Json.memberOf "encoding" .text c.encoding
    ++ Json.memberOf "delimiter" .char c.delimiter ++ Json.memberOf "comment" .char c.comment
    ++ [("sharps", .bool c.sharps), ("octaves", c.octaves.toJson),
      ("descending", .bool c.descending)])

/-- Read what is configured for prefix maps. -/
def ofJson? (j : Json) : Option PrefixMapConfig := do
  match ← j.slots? fieldNames with
  | [encoding, delimiter, comment, sharps, octaves, descending] =>
    return { encoding := ← encoding.leftOut Json.text?
             delimiter := ← delimiter.leftOut Json.char?
             comment := ← comment.leftOut Json.char?
             sharps := ← sharps.orElse false Json.bool?
             octaves := ← octaves.orElse .c0 OctaveNumbering.ofJson?
             descending := ← descending.orElse false Json.bool? }
  | _ => none

end PrefixMapConfig

namespace Config

/-- The JSON form of a configuration. -/
def toJson (c : Config) : Json :=
  .record (fieldNames.zip [c.scores.toJson, c.samples.toJson, c.prefixes.toJson])

/-- Read a configuration. -/
def ofJson? (j : Json) : Option Config := do
  match ← j.slots? fieldNames with
  | [scores, samples, prefixes] =>
    return { scores := ← scores.orElse {} ScoreConfig.ofJson?
             samples := ← samples.orElse {} SampleTableConfig.ofJson?
             prefixes := ← prefixes.orElse {} PrefixMapConfig.ofJson? }
  | _ => none

end Config

end VocalScore
