import Rollup.Calendar.Date
import Rollup.Calendar.Format
import Rollup.Calendar.Instant
import Rollup.Calendar.Reader
import Rollup.Catalog.Field
import Rollup.Catalog.Resolve
import Rollup.CommandLine.Arguments
import Rollup.CommandLine.Fixture
import Rollup.CommandLine.Folder
import Rollup.CommandLine.LogFilter
import Rollup.CommandLine.Run
import Rollup.Condition.Basic
import Rollup.Condition.Compile
import Rollup.Condition.Interval
import Rollup.Condition.Predicate
import Rollup.Condition.PredicateJson
import Rollup.Config
import Rollup.Decimal.Binary
import Rollup.Decimal.Format
import Rollup.Decimal.Literal
import Rollup.Decimal.Power
import Rollup.Decimal.Rounding
import Rollup.Decimal.Shortest
import Rollup.Directory
import Rollup.Document.Path
import Rollup.Document.Sort
import Rollup.Document.TupleKey
import Rollup.Error
import Rollup.Event
import Rollup.Formula.Basic
import Rollup.Formula.Eval
import Rollup.Index.Budget
import Rollup.Item
import Rollup.Json.Basic
import Rollup.Json.Decode
import Rollup.Json.Numeral
import Rollup.Json.Order
import Rollup.Json.Printer
import Rollup.Json.Reader
import Rollup.Json.Shape
import Rollup.Json.Skip
import Rollup.Keyed
import Rollup.Main
import Rollup.Metrics
import Rollup.Plan.Key
import Rollup.Plan.Materialization
import Rollup.Plan.Presentation
import Rollup.Plan.Reduction
import Rollup.Proofs.AccessGroups
import Rollup.Proofs.AllOrNothing
import Rollup.Proofs.Answers
import Rollup.Proofs.AtRest
import Rollup.Proofs.CalendarDays
import Rollup.Proofs.Calls
import Rollup.Proofs.Candidates
import Rollup.Proofs.Columns
import Rollup.Proofs.CompactText
import Rollup.Proofs.Compiling
import Rollup.Proofs.Computing
import Rollup.Proofs.Conditions
import Rollup.Proofs.Conservation
import Rollup.Proofs.Dates
import Rollup.Proofs.Definitions
import Rollup.Proofs.Double
import Rollup.Proofs.Downloads
import Rollup.Proofs.EarlyFiltering
import Rollup.Proofs.Editing
import Rollup.Proofs.Equality
import Rollup.Proofs.Extrema
import Rollup.Proofs.Footprints
import Rollup.Proofs.Formulas
import Rollup.Proofs.Generations
import Rollup.Proofs.GroupedRows
import Rollup.Proofs.IndexBlindness
import Rollup.Proofs.IndexBudget
import Rollup.Proofs.IndexCatalog
import Rollup.Proofs.IndexChoice
import Rollup.Proofs.Instants
import Rollup.Proofs.KeyOrder
import Rollup.Proofs.Keyed
import Rollup.Proofs.LabelledGroups
import Rollup.Proofs.Labelling
import Rollup.Proofs.Labels
import Rollup.Proofs.ListedRows
import Rollup.Proofs.Listing
import Rollup.Proofs.Matching
import Rollup.Proofs.Merging
import Rollup.Proofs.NestedLoop
import Rollup.Proofs.Noninterference
import Rollup.Proofs.Normalizing
import Rollup.Proofs.Numeral
import Rollup.Proofs.Opposites
import Rollup.Proofs.OwnColumns
import Rollup.Proofs.OwnerSplits
import Rollup.Proofs.Paging
import Rollup.Proofs.Partition
import Rollup.Proofs.Path
import Rollup.Proofs.PredicatePaths
import Rollup.Proofs.Projecting
import Rollup.Proofs.PublishedRows
import Rollup.Proofs.Publishing
import Rollup.Proofs.Reading
import Rollup.Proofs.Reductions
import Rollup.Proofs.Registers
import Rollup.Proofs.Remembering
import Rollup.Proofs.Resolving
import Rollup.Proofs.Running
import Rollup.Proofs.Shortest
import Rollup.Proofs.Sorting
import Rollup.Proofs.StoredConditions
import Rollup.Proofs.StoredInstants
import Rollup.Proofs.Summaries
import Rollup.Proofs.TupleKey
import Rollup.Proofs.ValueOrder
import Rollup.Proofs.WholeGroups
import Rollup.Proofs.WholeNumbers
import Rollup.Query.Basic
import Rollup.Query.Run
import Rollup.Queue.Basic
import Rollup.Report.Definition
import Rollup.Report.Edit
import Rollup.Report.Id
import Rollup.Report.Registry
import Rollup.Report.Rows
import Rollup.Report.Status
import Rollup.Service.Basic
import Rollup.Service.Dispatcher
import Rollup.Service.Reports
import Rollup.Service.Run
import Rollup.Stage.Basic
import Rollup.Stage.Group
import Rollup.Stage.Join
import Rollup.Stage.Json
import Rollup.Stage.Label
import Rollup.Stage.Project
import Rollup.Stage.Regroup
import Rollup.Stage.Run
import Rollup.Store.Basic
import Rollup.Store.Error
import Rollup.Store.Index
import Rollup.Tenant
import Rollup.Text.Alphanumeric
import Rollup.Text.Blank
import Rollup.Text.Bounds
import Rollup.Text.Hexadecimal
import Rollup.Text.Pattern
import Rollup.Text.Printable
import Rollup.Text.Quoted
import Rollup.Text.Split
import Rollup.Value.Basic
import Rollup.Value.DataType
