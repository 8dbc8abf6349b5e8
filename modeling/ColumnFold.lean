import ColumnFold.Cell
import ColumnFold.Choices
import ColumnFold.Cluster
import ColumnFold.ColumnPairs
import ColumnFold.Command.Config
import ColumnFold.Command.Directory
import ColumnFold.Command.Flag
import ColumnFold.Command.Run
import ColumnFold.Command.Separator
import ColumnFold.Command.Settings
import ColumnFold.Command.Stream
import ColumnFold.Command.Usage
import ColumnFold.Command.Use
import ColumnFold.Command.Value
import ColumnFold.Command.WidthWords
import ColumnFold.Command.Word
import ColumnFold.Cut
import ColumnFold.Escape
import ColumnFold.Fault
import ColumnFold.Fold
import ColumnFold.Main
import ColumnFold.Measure
import ColumnFold.Numeral
import ColumnFold.Plan
import ColumnFold.Proofs.AttachedWidths
import ColumnFold.Proofs.Attributes
import ColumnFold.Proofs.BrokenSequences
import ColumnFold.Proofs.Checked
import ColumnFold.Proofs.ClusterEnds
import ColumnFold.Proofs.ColumnOrder
import ColumnFold.Proofs.ColumnSlices
import ColumnFold.Proofs.CommandLine
import ColumnFold.Proofs.Cutting
import ColumnFold.Proofs.Decimal
import ColumnFold.Proofs.Division
import ColumnFold.Proofs.Erasure
import ColumnFold.Proofs.FewestFragments
import ColumnFold.Proofs.Fields
import ColumnFold.Proofs.FileNames
import ColumnFold.Proofs.FilledTabs
import ColumnFold.Proofs.Fragments
import ColumnFold.Proofs.Glyphs
import ColumnFold.Proofs.LineEnds
import ColumnFold.Proofs.LineFeeds
import ColumnFold.Proofs.ListedWidths
import ColumnFold.Proofs.NamedFiles
import ColumnFold.Proofs.OneColumn
import ColumnFold.Proofs.PassThrough
import ColumnFold.Proofs.Plans
import ColumnFold.Proofs.PunctuationRules
import ColumnFold.Proofs.RangeElements
import ColumnFold.Proofs.RangeNumbers
import ColumnFold.Proofs.Reading
import ColumnFold.Proofs.Refolding
import ColumnFold.Proofs.Refusals
import ColumnFold.Proofs.RemovedColumns
import ColumnFold.Proofs.Separate
import ColumnFold.Proofs.SeparatorForms
import ColumnFold.Proofs.Sequences
import ColumnFold.Proofs.SeveralFiles
import ColumnFold.Proofs.Span
import ColumnFold.Proofs.TabStops
import ColumnFold.Proofs.WidthTokens
import ColumnFold.Proofs.Widths
import ColumnFold.Proofs.WordBreaks
import ColumnFold.Proofs.WrittenWidths
import ColumnFold.Punctuation
import ColumnFold.Rendition
import ColumnFold.Repetition
import ColumnFold.Slice
import ColumnFold.Tabs
import ColumnFold.Text.Line
import ColumnFold.Text.Quoted
import ColumnFold.Text.Separated
import ColumnFold.Text.Symbol
import ColumnFold.Text.Utf8
import ColumnFold.Text.Wrap
import ColumnFold.Unicode.Alphanumeric
import ColumnFold.Unicode.Blank
import ColumnFold.Unicode.BreakClass
import ColumnFold.Unicode.Columns
import ColumnFold.Unicode.Decimal
import ColumnFold.Unicode.Emoji
import ColumnFold.Unicode.Indic
import ColumnFold.Unicode.Printable
import ColumnFold.Unicode.Ranges
import ColumnFold.WidthList.Error
import ColumnFold.WidthList.Range
import ColumnFold.WidthList.Token
