import VocalScore.Command.Arguments
import VocalScore.Command.Run
import VocalScore.Config.Basic
import VocalScore.Config.Json
import VocalScore.Config.Yaml
import VocalScore.Curve.Basic
import VocalScore.Curve.Interpolation
import VocalScore.Curve.Json
import VocalScore.Encoding.Codec
import VocalScore.Encoding.Declared
import VocalScore.Encoding.Iso2022Jp
import VocalScore.Encoding.Jis0208
import VocalScore.Encoding.Label
import VocalScore.Encoding.ShiftJis
import VocalScore.Encoding.SingleByte
import VocalScore.Encoding.Utf16
import VocalScore.Encoding.Utf8
import VocalScore.Files
import VocalScore.Files.Tree
import VocalScore.Json.Basic
import VocalScore.Json.Decode
import VocalScore.Json.Escape
import VocalScore.Json.Numeral
import VocalScore.Json.Parser
import VocalScore.Json.Printer
import VocalScore.Main
import VocalScore.Number.Binary64
import VocalScore.Number.Decimal
import VocalScore.Number.Layout
import VocalScore.Number.Rounding
import VocalScore.Number.Shortest
import VocalScore.Proofs.Command.Lookup
import VocalScore.Proofs.Curve.Segment
import VocalScore.Proofs.Curve.Step
import VocalScore.Proofs.Encoding.Declaration
import VocalScore.Proofs.Encoding.DeclaredLabel
import VocalScore.Proofs.Encoding.MarkedText
import VocalScore.Proofs.Encoding.Output
import VocalScore.Proofs.Encoding.Utf8
import VocalScore.Proofs.Json.Decode
import VocalScore.Proofs.Json.Numeral
import VocalScore.Proofs.Json.RoundTrip
import VocalScore.Proofs.LineEnds
import VocalScore.Proofs.Number.Arithmetic
import VocalScore.Proofs.Number.Bits
import VocalScore.Proofs.Number.Digits
import VocalScore.Proofs.Number.Nearest
import VocalScore.Proofs.Number.Order
import VocalScore.Proofs.Number.RoundTrip
import VocalScore.Proofs.Number.Rounding
import VocalScore.Proofs.Number.Shortest
import VocalScore.Proofs.Number.Visible
import VocalScore.Proofs.Score.AfterEnd
import VocalScore.Proofs.Score.BendChain
import VocalScore.Proofs.Score.BendGrammar
import VocalScore.Proofs.Score.BendSurplus
import VocalScore.Proofs.Score.Causes
import VocalScore.Proofs.Score.Dump
import VocalScore.Proofs.Score.EnvelopeGrammar
import VocalScore.Proofs.Score.FieldGrammar
import VocalScore.Proofs.Score.FieldText
import VocalScore.Proofs.Score.HeaderGrammar
import VocalScore.Proofs.Score.NoteGrammar
import VocalScore.Proofs.Score.NoteKeys
import VocalScore.Proofs.Score.NumberList
import VocalScore.Proofs.Score.SectionFold
import VocalScore.Proofs.Score.SectionGrammar
import VocalScore.Proofs.Score.SectionKeys
import VocalScore.Proofs.Score.SectionLines
import VocalScore.Proofs.Score.SectionText
import VocalScore.Proofs.Score.Spelling
import VocalScore.Proofs.Text.LineBreaks
import VocalScore.Proofs.Text.Occurrence
import VocalScore.Proofs.Text.Scanning
import VocalScore.Proofs.Timeline.Projection
import VocalScore.Proofs.Traversal
import VocalScore.Proofs.Voicebank.Dump
import VocalScore.Proofs.Voicebank.EncodedRoundTrip
import VocalScore.Proofs.Voicebank.LiveLines
import VocalScore.Proofs.Voicebank.ManifestHead
import VocalScore.Proofs.Voicebank.PitchGrammar
import VocalScore.Proofs.Voicebank.PitchRoundTrip
import VocalScore.Proofs.Voicebank.PrefixListing
import VocalScore.Proofs.Voicebank.PrefixRoundTrip
import VocalScore.Proofs.Voicebank.PrefixText
import VocalScore.Proofs.Voicebank.ProfileLines
import VocalScore.Proofs.Voicebank.ProfileText
import VocalScore.Proofs.Voicebank.SampleIndex
import VocalScore.Proofs.Voicebank.SampleLine
import VocalScore.Proofs.Voicebank.SampleRoundTrip
import VocalScore.Proofs.Voicebank.SampleText
import VocalScore.Record
import VocalScore.Score.Basic
import VocalScore.Score.Envelope
import VocalScore.Score.Error
import VocalScore.Score.Field
import VocalScore.Score.Json
import VocalScore.Score.Note
import VocalScore.Score.PitchBend
import VocalScore.Score.Section
import VocalScore.Score.Settings
import VocalScore.Score.Version
import VocalScore.Text.Basic
import VocalScore.Text.Quoted
import VocalScore.Text.Shown
import VocalScore.Timeline.Basic
import VocalScore.Timeline.Json
import VocalScore.Timeline.Tick
import VocalScore.Voicebank.Error
import VocalScore.Voicebank.Json
import VocalScore.Voicebank.Manifest
import VocalScore.Voicebank.PitchName
import VocalScore.Voicebank.PrefixMap
import VocalScore.Voicebank.Profile
import VocalScore.Voicebank.Resolution
import VocalScore.Voicebank.SampleTable
import VocalScore.Yaml.Basic
import VocalScore.Yaml.Composition
import VocalScore.Yaml.Decode
import VocalScore.Yaml.Fold
import VocalScore.Yaml.Glyph
import VocalScore.Yaml.Layout
import VocalScore.Yaml.Meaning
import VocalScore.Yaml.Printer
import VocalScore.Yaml.Property
import VocalScore.Yaml.Scalar.Block
import VocalScore.Yaml.Scalar.Plain
import VocalScore.Yaml.Scalar.Quoted
import VocalScore.Yaml.Token
