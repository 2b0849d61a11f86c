import VocalScore.Json.Decode
import VocalScore.Voicebank.Manifest
import VocalScore.Voicebank.Profile
import VocalScore.Voicebank.SampleTable

/-!
# Files of a voicebank as JSON

A sample table is the list of its entries, and a prefix map an object whose keys are pitches. A
profile and a manifest are records.
-/

namespace VocalScore

namespace SampleEntry

/-- The names of the fields of an entry. -/
def fieldNames : List String :=
  ["filename", "alias", "offset", "consonant", "cutoff", "preutterance", "overlap"]

/-- The JSON form of an entry. -/
def toJson (e : SampleEntry) : Json :=
  .record (fieldNames.zip [.text e.filename, .text e.aliasName, .real e.offset,
    .real e.consonant, .real e.cutoff, .real e.preutterance, .real e.overlap])

/-- Read an entry. -/
def ofJson? (j : Json) : Option SampleEntry := do
  match ← j.slots? fieldNames with
  | [filename, aliasName, offset, consonant, cutoff, preutterance, overlap] =>
    return { filename := ← filename.required Json.text?
             aliasName := ← aliasName.required Json.text?
             offset := ← offset.required Json.real?
             consonant := ← consonant.required Json.real?
             cutoff := ← cutoff.required Json.real?
             preutterance := ← preutterance.required Json.real?
             overlap := ← overlap.required Json.real? }
  | _ => none

end SampleEntry

/-- The JSON form of a sample table. -/
def SampleTable.toJson (t : SampleTable) : Json := .list SampleEntry.toJson t.toList

/-- Read a sample table. -/
def SampleTable.ofJson? (j : Json) : Option SampleTable :=
  (j.list? SampleEntry.ofJson?).map ofList

namespace Affix

/-- The names of the fields of an affix. -/
def fieldNames : List String := ["prefix", "suffix"]

/-- The JSON form of an affix. -/
def toJson (a : Affix) : Json := .record (fieldNames.zip [.text a.before, .text a.after])

/-- Read an affix. -/
def ofJson? (j : Json) : Option Affix := do
  match ← j.slots? fieldNames with
  | [before, after] =>
    return { before := ← before.required Json.text?, after := ← after.required Json.text? }
  | _ => none

end Affix

namespace PrefixMap

/-- The JSON form of a prefix map. -/
def toJson (m : PrefixMap) : Json :=
  .record (m.entries.map fun (n, a) => (Text.decimalString n.toNat, a.toJson))

/-- Read a pitch that is a key: a numeral without escapes. -/
def pitchOfKey? (spelling : List Char) : Option UInt8 :=
  ((Json.number spelling).nat? 255).map UInt8.ofNat

/-- Read a prefix map; of several members for one pitch the last counts. -/
def ofJson? : Json → Option PrefixMap
  | .object ms =>
    (ms.mapM fun (k, j) => do return (← pitchOfKey? k, ← Affix.ofJson? j)).map ofList
  | _ => none

end PrefixMap

namespace Profile

/-- The names of the fields of a profile. -/
def fieldNames : List String := ["name", "author", "website", "image", "sample", "extra"]

/-- The JSON form of a profile. -/
def toJson (p : Profile) : Json :=
  .record (fieldNames.zip [.text p.name, .text p.author, .text p.website,
    .optional .text p.image, .optional .text p.sample, .text p.extra])

/-- Read a profile. -/
def ofJson? (j : Json) : Option Profile := do
  match ← j.slots? fieldNames with
  | [name, author, website, image, sample, extra] =>
    return { name := ← name.required Json.text?
             author := ← author.required Json.text?
             website := ← website.required Json.text?
             image := ← image.nullable Json.text?
             sample := ← sample.nullable Json.text?
             extra := ← extra.required Json.text? }
  | _ => none

end Profile

namespace Manifest

/-- The names of the fields of a manifest. -/
def fieldNames : List String := ["kind", "folder", "contents_dir", "description"]

/-- The JSON form of a manifest. -/
def toJson (m : Manifest) : Json :=
  .record (fieldNames.zip [.text m.kind, .text m.folder, .text m.contentsDir,
    .text m.description])

/-- Read a manifest. -/
def ofJson? (j : Json) : Option Manifest := do
  match ← j.slots? fieldNames with
  | [kind, folder, contentsDir, description] =>
    return { kind := ← kind.required Json.text?
             folder := ← folder.required Json.text?
             contentsDir := ← contentsDir.required Json.text?
             description := ← description.required Json.text? }
  | _ => none

end Manifest

end VocalScore
