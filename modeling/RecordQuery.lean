import RecordQuery.Decode
import RecordQuery.Error
import RecordQuery.Filter.Basic
import RecordQuery.Filter.Describe
import RecordQuery.Filter.Kind
import RecordQuery.Filter.Literal
import RecordQuery.Filter.Predicate
import RecordQuery.Filter.Tags
import RecordQuery.Json.Basic
import RecordQuery.Json.Loose
import RecordQuery.Json.Members
import RecordQuery.Json.Number
import RecordQuery.Json.Printer
import RecordQuery.Json.Reader
import RecordQuery.Json.Syntax
import RecordQuery.Numeric.Double
import RecordQuery.Numeric.Layout
import RecordQuery.Numeric.Numeral
import RecordQuery.Numeric.Reading
import RecordQuery.Numeric.Shortest
import RecordQuery.Options
import RecordQuery.Path.Basic
import RecordQuery.Path.Insertion
import RecordQuery.Path.Parser
import RecordQuery.Path.Resolved
import RecordQuery.Proofs.Filter.Flattening
import RecordQuery.Proofs.Json.IntegerOrder
import RecordQuery.Proofs.Path.Leaves
import RecordQuery.Proofs.Sort.KeyOrder
import RecordQuery.Proofs.Sort.Repeats
import RecordQuery.Proofs.Window.Optimization
import RecordQuery.Sort.Comparator
import RecordQuery.Sort.Key
import RecordQuery.Sort.Order
import RecordQuery.Text.Blank
import RecordQuery.Text.CharTable
import RecordQuery.Text.Folding
import RecordQuery.Text.FoldingTable
import RecordQuery.Text.Hex
import RecordQuery.Text.LetterTable
import RecordQuery.Text.Lowercase
import RecordQuery.Text.Pattern
import RecordQuery.Text.Percent
import RecordQuery.Text.Pieces
import RecordQuery.Text.PrintableTable
import RecordQuery.Text.Quoted
import RecordQuery.Window.Basic
import RecordQuery.Window.Execution
import RecordQuery.Window.Literal
import RecordQuery.Window.Query
import RecordQuery.Proofs.Sort.StrictWeakOrder
import RecordQuery.Proofs.Except
import RecordQuery.Proofs.Filter.ValueView
import RecordQuery.Proofs.ValueView
import RecordQuery.Proofs.Json.Nesting
import RecordQuery.Proofs.Json.NumberText
import RecordQuery.Proofs.Json.StringText
import RecordQuery.Proofs.Decode
import RecordQuery.Proofs.Json.TextRoundTrip
import RecordQuery.Proofs.Filter.LiteralRoundTrip
import RecordQuery.Proofs.Filter.TextRoundTrip
import RecordQuery.Proofs.Text.Spans
import RecordQuery.Proofs.Path.Grammar
import RecordQuery.Proofs.Path.Reading
import RecordQuery.Proofs.Path.Composition
import RecordQuery.Proofs.Filter.NormalForm
import RecordQuery.Proofs.Sort.FirstFields
import RecordQuery.Proofs.Window.FieldSet
import RecordQuery.Proofs.Window.Bounds
import RecordQuery.Proofs.Window.Merging
import RecordQuery.Proofs.Sort.Stable
import RecordQuery.Proofs.Window.MergedPage
import RecordQuery.Proofs.Window.Pages
import RecordQuery.Proofs.Path.Insertion
import RecordQuery.Proofs.Window.Projection
import RecordQuery.Proofs.Window.FieldOrder
import RecordQuery.Proofs.Sort.FieldText
import RecordQuery.Proofs.Window.LiteralRoundTrip
import RecordQuery.Proofs.Filter.LiteralNodes
import RecordQuery.Proofs.Filter.LiteralNormalForm
import RecordQuery.Proofs.Window.Interval
import RecordQuery.Proofs.Filter.UnknownWords
import RecordQuery.Proofs.Window.Tiling
import RecordQuery.Proofs.Text.PercentRoundTrip
import RecordQuery.Proofs.Window.QueryText
import RecordQuery.Proofs.Filter.PatternLimit
import RecordQuery.Proofs.PathFaults
import RecordQuery.Proofs.Filter.Regrouping
import RecordQuery.Proofs.Window.NormalForm
import RecordQuery.Proofs.Filter.CaseWidening
import RecordQuery.Proofs.Filter.LiteralMeaning
import RecordQuery.Proofs.Filter.LeafTests
import RecordQuery.Proofs.Filter.Ranges
import RecordQuery.Proofs.Text.Wildcards
import RecordQuery.Proofs.Filter.TextTests
import RecordQuery.Proofs.Sort.Directions
import RecordQuery.Proofs.Sort.ReadFields
import RecordQuery.Proofs.Sort.OrderText
import RecordQuery.Proofs.SpareWildcards
import RecordQuery.Proofs.Path.Collecting
import RecordQuery.Proofs.Window.Reprojection
import RecordQuery.Proofs.Filter.QuotedLists
import RecordQuery.Proofs.Sort.ResultOrder
