import VocalScore.Encoding.Codec
import VocalScore.Voicebank.Error

/-!
# Installation manifests

A manifest tells an installer what an archive holds. It is a list of sections, of which only
the lines before the first header count.
-/

namespace VocalScore

/-- What an archive holds and where it goes. -/
structure Manifest where
  kind : String := ""
  folder : String := ""
  contentsDir : String := ""
  description : String := ""
  deriving DecidableEq, Repr

namespace Manifest

/-- The manifest in the head of a list of sections. -/
def ofSections (sections : List Section) : Manifest :=
  match sections.find? (·.name == Section.headName) with
  | none => {}
  | some s =>
    { kind := s.value "type", folder := s.value "folder", contentsDir := s.value "contentsdir",
      description := s.value "description" }

/-- Read the text of a manifest. -/
def read (text : String) : Except VoicebankError Manifest :=
  ((Section.read [] text).mapError .malformed).map ofSections

/-- Read the bytes of a manifest. -/
def decode (e : Encoding) (bytes : List UInt8) : Except VoicebankError Manifest :=
  read (String.ofList (e.decode bytes))

end Manifest

end VocalScore
