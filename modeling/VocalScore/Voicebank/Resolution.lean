import VocalScore.Score.Note
import VocalScore.Voicebank.SampleTable

/-!
# The samples of a score

Each note that is not a rest asks for the sample of its lyric at its pitch. A note whose sample
the table does not have is passed over.
-/

namespace VocalScore.SampleTable

/-- The sample of a note; a rest has none. -/
def sampleOf (t : SampleTable) (map : Option PrefixMap) (n : Note) : Option SampleEntry :=
  if n.isRest then none else t.lookup map n.pitch n.lyric

/-- The samples of notes, in their order. -/
def resolve (t : SampleTable) (map : Option PrefixMap) (notes : List Note) : SampleTable :=
  ofList (notes.filterMap (t.sampleOf map))

/-- The samples of notes are in the order of the notes. -/
@[simp] theorem toList_resolve (t : SampleTable) (map : Option PrefixMap) (notes : List Note) :
    (t.resolve map notes).toList = notes.filterMap (t.sampleOf map) := toList_ofList _

end VocalScore.SampleTable
