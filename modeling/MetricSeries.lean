import MetricSeries.Text.Blank
import MetricSeries.Text.Invisible
import MetricSeries.Text.Numeral
import MetricSeries.Text.Quoted
import MetricSeries.Text.Split
import MetricSeries.SortedMap
import MetricSeries.Error
import MetricSeries.Json.Basic
import MetricSeries.Json.Printer
import MetricSeries.Json.Reader
import MetricSeries.Json.Record
import MetricSeries.Database
import MetricSeries.Ident
import MetricSeries.Membership
import MetricSeries.Method
import MetricSeries.Definition
import MetricSeries.Time.Calendar
import MetricSeries.Time.Wall
import MetricSeries.Time.Zone
import MetricSeries.Time.Adjustment
import MetricSeries.Time.Reading
import MetricSeries.Time.Span
import MetricSeries.Aggregate.Cell
import MetricSeries.Aggregate.Number
import MetricSeries.Aggregate.WideSum
import MetricSeries.Aggregate.Aggregation
import MetricSeries.Aggregate.Aggregator
import MetricSeries.Aggregate.InPlace
import MetricSeries.Category
import MetricSeries.Template.Basic
import MetricSeries.Template.Builtin
import MetricSeries.Template.Catalog
import MetricSeries.Registry
import MetricSeries.Provider
import MetricSeries.Sources
import MetricSeries.Config
import MetricSeries.Query.Buckets
import MetricSeries.Query.Accumulator
import MetricSeries.Query.InPlace
import MetricSeries.Query.Basic
import MetricSeries.CommandLine
import MetricSeries.Main
import MetricSeries.Proofs.Aggregate.Columns
import MetricSeries.Proofs.Query.Layout
import MetricSeries.Proofs.Query.Fetching
import MetricSeries.Proofs.Query.Slots
import MetricSeries.Proofs.Query.Composition
import MetricSeries.Proofs.Query.Meaning
import MetricSeries.Proofs.Text.Pieces
import MetricSeries.Proofs.Definition.Identifiers
import MetricSeries.Proofs.Definition.Resolution
import MetricSeries.Proofs.Definition.Grammar
import MetricSeries.Proofs.Definition.Canonical
import MetricSeries.Proofs.Time.Calendar
import MetricSeries.Proofs.Time.Midnight
import MetricSeries.Proofs.Time.Day
import MetricSeries.Proofs.Query.Partition
import MetricSeries.Proofs.Query.Clauses
import MetricSeries.Proofs.Definition.Rewriting
import MetricSeries.Proofs.Query.Systems
import MetricSeries.Proofs.Time.DayEnds
import MetricSeries.Proofs.Time.Markers
import MetricSeries.Proofs.Time.MarkedTexts
import MetricSeries.Proofs.Time.Shifting
import MetricSeries.Proofs.SortedMap
import MetricSeries.Proofs.Registry.Registration
import MetricSeries.Proofs.Registry.Selection
import MetricSeries.Proofs.Registry.Gating
import MetricSeries.Proofs.Registry.Runs
import MetricSeries.Proofs.Time.LocalTime
import MetricSeries.Proofs.Time.FixedText
import MetricSeries.Proofs.Time.Gaps
import MetricSeries.Proofs.Time.OutsideGaps
import MetricSeries.Proofs.Time.Inverses
import MetricSeries.Proofs.Time.WallShifts
import MetricSeries.Proofs.Time.SameMinute
import MetricSeries.Proofs.Time.Acceptance
import MetricSeries.Proofs.Time.WholeMinutes
import MetricSeries.Proofs.Time.RelativeTexts
import MetricSeries.Proofs.Query.MinutePoints
import MetricSeries.Proofs.Aggregate.IntegerKind
import MetricSeries.Proofs.Aggregate.CompleteRows
import MetricSeries.Proofs.Aggregate.ExactSums
import MetricSeries.Proofs.Aggregate.Quotients
import MetricSeries.Proofs.Aggregate.Rates
import MetricSeries.Proofs.Query.Changes
import MetricSeries.Proofs.Query.SinglePoints
import MetricSeries.Proofs.Query.ColumnsRead
import MetricSeries.Proofs.Definition.Groups
import MetricSeries.Proofs.Definition.Inference
import MetricSeries.Proofs.Json.Strings
import MetricSeries.Proofs.Json.Numbers
import MetricSeries.Proofs.Json.RoundTrip
import MetricSeries.Proofs.Json.Records
import MetricSeries.Proofs.Config
import MetricSeries.Proofs.Registry.Catalogs
import MetricSeries.Proofs.CommandLine
import MetricSeries.Proofs.Query.NamedFields
