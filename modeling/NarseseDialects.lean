import NarseseDialects.Report
import NarseseDialects.CommandLine.Arguments
import NarseseDialects.CommandLine.Batch
import NarseseDialects.CommandLine.Drawing
import NarseseDialects.CommandLine.Options
import NarseseDialects.CommandLine.Run
import NarseseDialects.CommandLine.Content
import NarseseDialects.CommandLine.Conversion
import NarseseDialects.CommandLine.Usage
import NarseseDialects.Construct
import NarseseDialects.Datum
import NarseseDialects.Dialect.Ascii
import NarseseDialects.Dialect.Basic
import NarseseDialects.Dialect.Directory
import NarseseDialects.Dialect.Draft
import NarseseDialects.Dialect.Han
import NarseseDialects.Dialect.Latex
import NarseseDialects.Dialect.Vocabulary
import NarseseDialects.Item
import NarseseDialects.Kind
import NarseseDialects.Lexical.Display
import NarseseDialects.Lexical.Tree
import NarseseDialects.Lexical.Writer
import NarseseDialects.Lexicon
import NarseseDialects.Lexicon.Within
import NarseseDialects.Literal
import NarseseDialects.Main
import NarseseDialects.Meaning.Assembly
import NarseseDialects.Meaning.Fold
import NarseseDialects.Meaning.Unfold
import NarseseDialects.Number.Double
import NarseseDialects.Number.Layout
import NarseseDialects.Number.Magnitude
import NarseseDialects.Number.Shortest
import NarseseDialects.Number.Written
import NarseseDialects.Outline
import NarseseDialects.Quantity
import NarseseDialects.Reading.Scan
import NarseseDialects.Reading.Fault
import NarseseDialects.Reading.Marks
import NarseseDialects.Reading.Source
import NarseseDialects.Reading.Terms
import NarseseDialects.Reading.Typed
import NarseseDialects.Role
import NarseseDialects.Sentence
import NarseseDialects.Term.Basic
import NarseseDialects.Term.Builder
import NarseseDialects.Term.Construct
import NarseseDialects.Value.Display
import NarseseDialects.Text.Alphanumeric
import NarseseDialects.Text.Basic
import NarseseDialects.Typeset
import NarseseDialects.Text.Classes
import NarseseDialects.Text.Cut
import NarseseDialects.Text.Digit
import NarseseDialects.Text.Lines
import NarseseDialects.Text.Printable
import NarseseDialects.Text.Quoted
import NarseseDialects.Text.Utf8
import NarseseDialects.Proofs.Agreement
import NarseseDialects.Proofs.Batch
import NarseseDialects.Proofs.Blanks
import NarseseDialects.Proofs.Bounds
import NarseseDialects.Proofs.Composition
import NarseseDialects.Proofs.Conservation
import NarseseDialects.Proofs.Dialect.Cuts
import NarseseDialects.Proofs.Dialect.Literals
import NarseseDialects.Proofs.Dialect.Marks
import NarseseDialects.Proofs.Dialect.Spelling
import NarseseDialects.Proofs.Echo
import NarseseDialects.Proofs.FirstFault
import NarseseDialects.Proofs.ImageRecovery
import NarseseDialects.Proofs.Lexical.Neighbours
import NarseseDialects.Proofs.Lexical.Parts
import NarseseDialects.Proofs.Lexical.Postorder
import NarseseDialects.Proofs.Lexical.Shape
import NarseseDialects.Proofs.Lexical.Spelled
import NarseseDialects.Proofs.LexicalRoundTrip
import NarseseDialects.Proofs.LongestMatch
import NarseseDialects.Proofs.Lookup
import NarseseDialects.Proofs.Meaning.Assembled
import NarseseDialects.Proofs.Meaning.Folding
import NarseseDialects.Proofs.Meaning.Sensible
import NarseseDialects.Proofs.Meaning.Troubles
import NarseseDialects.Proofs.Meaning.Unfolding
import NarseseDialects.Proofs.NameRoundTrip
import NarseseDialects.Proofs.Number.Nearest
import NarseseDialects.Proofs.Number.Numeral
import NarseseDialects.Proofs.Number.Typeset
import NarseseDialects.Proofs.Number.Written
import NarseseDialects.Proofs.NumeralRoundTrip
import NarseseDialects.Proofs.Outcome
import NarseseDialects.Proofs.Outline
import NarseseDialects.Proofs.Reading.EmptyTruth
import NarseseDialects.Proofs.Reading.Equations
import NarseseDialects.Proofs.Reading.Failures
import NarseseDialects.Proofs.Reading.Grammar
import NarseseDialects.Proofs.Reading.Items
import NarseseDialects.Proofs.Reading.Lexical
import NarseseDialects.Proofs.Reading.NameEnds
import NarseseDialects.Proofs.Reading.Nonblank
import NarseseDialects.Proofs.Reading.Numerals
import NarseseDialects.Proofs.Reading.Placement
import NarseseDialects.Proofs.Reading.Places
import NarseseDialects.Proofs.Reading.Recovery
import NarseseDialects.Proofs.Reading.Spelled
import NarseseDialects.Proofs.Reading.Standing
import NarseseDialects.Proofs.Reading.WrittenItems
import NarseseDialects.Proofs.Reading.WrittenNodes
import NarseseDialects.Proofs.Reading.WrittenTerms
import NarseseDialects.Proofs.Reading.WrittenTexts
import NarseseDialects.Proofs.Refusals
import NarseseDialects.Proofs.Spots
import NarseseDialects.Proofs.Stripping
import NarseseDialects.Proofs.Tailless
import NarseseDialects.Proofs.Term.Atoms
import NarseseDialects.Proofs.Term.Building
import NarseseDialects.Proofs.Term.Congruence
import NarseseDialects.Proofs.Term.Containment
import NarseseDialects.Proofs.Term.Equality
import NarseseDialects.Proofs.Text.Apart
import NarseseDialects.Proofs.Text.Classes
import NarseseDialects.Proofs.Text.Quoted
import NarseseDialects.Proofs.Text.Tidy
import NarseseDialects.Proofs.Text.Trim
import NarseseDialects.Proofs.Text.Words
import NarseseDialects.Proofs.TidyFormulas
import NarseseDialects.Proofs.Translation
import NarseseDialects.Proofs.TreeRoundTrip
import NarseseDialects.Proofs.Typeset.Items
import NarseseDialects.Proofs.Typeset.Readable
import NarseseDialects.Proofs.Typeset.Words
import NarseseDialects.Proofs.Unambiguous
import NarseseDialects.Proofs.Value.Display
import NarseseDialects.Proofs.Value.Equality
import NarseseDialects.Proofs.Value.Made
import NarseseDialects.Proofs.Value.Native
import NarseseDialects.Proofs.Value.Origin
import NarseseDialects.Proofs.Value.Spellable
import NarseseDialects.Proofs.ValueRoundTrip
import NarseseDialects.Proofs.WellFormedTrees
