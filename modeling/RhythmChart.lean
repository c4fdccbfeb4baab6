import RhythmChart.Catalog.Basic
import RhythmChart.Catalog.Document
import RhythmChart.Catalog.Summary
import RhythmChart.Chart.Basic
import RhythmChart.Chart.Code
import RhythmChart.Chart.Headers
import RhythmChart.Chart.MeasureSizes
import RhythmChart.Chart.Objects
import RhythmChart.Compilation.Basic
import RhythmChart.Compilation.Effect
import RhythmChart.Compilation.Gate
import RhythmChart.Compilation.Source
import RhythmChart.Compilation.Warning
import RhythmChart.Draft.Basic
import RhythmChart.Draft.Motions
import RhythmChart.Draft.Notes
import RhythmChart.Draft.Playing
import RhythmChart.Encoding.CharBlock
import RhythmChart.Encoding.Charset
import RhythmChart.Encoding.EucKr
import RhythmChart.Encoding.JisBlocks
import RhythmChart.Encoding.KsBlocks
import RhythmChart.Encoding.ShiftJis
import RhythmChart.Encoding.Utf8
import RhythmChart.Fault
import RhythmChart.Field
import RhythmChart.Judgment.Basic
import RhythmChart.Judgment.Timegates
import RhythmChart.Main
import RhythmChart.Motion.Action
import RhythmChart.Motion.Basic
import RhythmChart.Motion.Scroll
import RhythmChart.Motion.Segment
import RhythmChart.Motion.Spacing
import RhythmChart.Motion.Timing
import RhythmChart.Motion.TimingRecord
import RhythmChart.Note.Basic
import RhythmChart.Note.Extraction
import RhythmChart.Note.Lanes
import RhythmChart.Notechart.BarLines
import RhythmChart.Notechart.Basic
import RhythmChart.Notechart.Event
import RhythmChart.Notechart.OfChart
import RhythmChart.Number.Binary64
import RhythmChart.Number.Finite
import RhythmChart.Number.Numeral
import RhythmChart.Number.Radix
import RhythmChart.Number.Scalar
import RhythmChart.Number.Shortest
import RhythmChart.Player.Arrangement
import RhythmChart.Player.Options
import RhythmChart.Proofs.Catalog.Levels
import RhythmChart.Proofs.Chart.Beats
import RhythmChart.Proofs.Chart.Doubles
import RhythmChart.Proofs.Chart.HeaderTable
import RhythmChart.Proofs.Chart.Log
import RhythmChart.Proofs.Chart.Overlay
import RhythmChart.Proofs.Chart.Places
import RhythmChart.Proofs.Chart.Topics
import RhythmChart.Proofs.Compilation.Accounting
import RhythmChart.Proofs.Compilation.Balance
import RhythmChart.Proofs.Compilation.Blocks
import RhythmChart.Proofs.Compilation.Checks
import RhythmChart.Proofs.Compilation.ColonHeaders
import RhythmChart.Proofs.Compilation.Detection
import RhythmChart.Proofs.Compilation.Dialects
import RhythmChart.Proofs.Compilation.Draws
import RhythmChart.Proofs.Compilation.Fields
import RhythmChart.Proofs.Compilation.Layout
import RhythmChart.Proofs.Compilation.Nesting
import RhythmChart.Proofs.Compilation.Overlay
import RhythmChart.Proofs.Compilation.Rearrangement
import RhythmChart.Proofs.Compilation.Reports
import RhythmChart.Proofs.Compilation.Resolution
import RhythmChart.Proofs.Compilation.Source
import RhythmChart.Proofs.Compilation.Steps
import RhythmChart.Proofs.Compilation.Validity
import RhythmChart.Proofs.Draft.Objects
import RhythmChart.Proofs.Judgment.Classification
import RhythmChart.Proofs.Judgment.Fairness
import RhythmChart.Proofs.Motion.Doubles
import RhythmChart.Proofs.Motion.Faults
import RhythmChart.Proofs.Motion.Indices
import RhythmChart.Proofs.Motion.Keyframes
import RhythmChart.Proofs.Motion.Linked
import RhythmChart.Proofs.Motion.Rates
import RhythmChart.Proofs.Motion.Scrolling
import RhythmChart.Proofs.Motion.Selection
import RhythmChart.Proofs.Motion.Tracks
import RhythmChart.Proofs.Note.Channels
import RhythmChart.Proofs.Note.Completion
import RhythmChart.Proofs.Note.Conservation
import RhythmChart.Proofs.Note.Ends
import RhythmChart.Proofs.Note.Followers
import RhythmChart.Proofs.Note.LongNotes
import RhythmChart.Proofs.Note.Markers
import RhythmChart.Proofs.Note.Pairing
import RhythmChart.Proofs.Note.Spans
import RhythmChart.Proofs.Notechart.Assembly
import RhythmChart.Proofs.Notechart.BarLines
import RhythmChart.Proofs.Notechart.Drawing
import RhythmChart.Proofs.Notechart.Endlessness
import RhythmChart.Proofs.Notechart.Landmines
import RhythmChart.Proofs.Notechart.Outcome
import RhythmChart.Proofs.Notechart.Partition
import RhythmChart.Proofs.Number.DoubleOrder
import RhythmChart.Proofs.Number.Doubles
import RhythmChart.Proofs.Number.Extents
import RhythmChart.Proofs.Number.Levels
import RhythmChart.Proofs.Number.Nonnegative
import RhythmChart.Proofs.Number.Operations
import RhythmChart.Proofs.Number.Range
import RhythmChart.Proofs.Number.Rounding
import RhythmChart.Proofs.Player.Arranging
import RhythmChart.Proofs.Player.Columns
import RhythmChart.Proofs.Sentence.Channels
import RhythmChart.Proofs.Sentence.Control
import RhythmChart.Proofs.Sentence.Detection
import RhythmChart.Proofs.Sentence.Phrase
import RhythmChart.Proofs.Sentence.Reading
import RhythmChart.Proofs.Song.Declarations
import RhythmChart.Proofs.Song.Files
import RhythmChart.Proofs.Song.SoundTable
import RhythmChart.Proofs.Song.Splitting
import RhythmChart.Proofs.Sorting.Firsts
import RhythmChart.Proofs.Sorting.Removal
import RhythmChart.Proofs.Sorting.Stable
import RhythmChart.Proofs.Sorting.Ties
import RhythmChart.Proofs.Text.Breaks
import RhythmChart.Proofs.Text.Characters
import RhythmChart.Proofs.Text.LineEnds
import RhythmChart.Proofs.Text.Lines
import RhythmChart.Proofs.Text.Lower
import RhythmChart.Proofs.Text.Margins
import RhythmChart.Proofs.Text.Pieces
import RhythmChart.Proofs.Text.Upper
import RhythmChart.Proofs.Timing.Actions
import RhythmChart.Proofs.Timing.Ascent
import RhythmChart.Proofs.Timing.BadTempos
import RhythmChart.Proofs.Timing.Course
import RhythmChart.Proofs.Timing.Integral
import RhythmChart.Proofs.Timing.OfChart
import RhythmChart.Proofs.Timing.Order
import RhythmChart.Proofs.Timing.Reordering
import RhythmChart.Proofs.Timing.RoundTrip
import RhythmChart.Proofs.Timing.Tempo
import RhythmChart.Sentence.Basic
import RhythmChart.Sentence.Dialect
import RhythmChart.Sentence.Reader
import RhythmChart.Song.Info
import RhythmChart.Song.Keysounds
import RhythmChart.Song.Subtitle
import RhythmChart.Sorting
import RhythmChart.Sorting.Adaptive
import RhythmChart.Sorting.Merging
import RhythmChart.Sorting.Runs
import RhythmChart.Text.Basic
import RhythmChart.Text.Blank
import RhythmChart.Text.Case
import RhythmChart.Text.CaseIgnorableRanges
import RhythmChart.Text.CaseRuns
import RhythmChart.Text.CasedRanges
import RhythmChart.Text.Digit
import RhythmChart.Text.Lines
import RhythmChart.Text.Order
import RhythmChart.Text.PrintableRanges
import RhythmChart.Text.Quoted
import RhythmChart.Text.Word
import RhythmChart.Text.WordRanges
