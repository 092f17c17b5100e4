import TypedQuery.Calendar.Date
import TypedQuery.Calendar.Reading
import TypedQuery.Calendar.Writing
import TypedQuery.CommandLine.Arguments
import TypedQuery.CommandLine.Directory
import TypedQuery.CommandLine.Execution
import TypedQuery.CommandLine.Failure
import TypedQuery.CommandLine.Location
import TypedQuery.CommandLine.Path
import TypedQuery.CommandLine.Report
import TypedQuery.Database
import TypedQuery.Engine.Affinity
import TypedQuery.Engine.Aggregation
import TypedQuery.Engine.Archive
import TypedQuery.Engine.Batch
import TypedQuery.Engine.Condition
import TypedQuery.Engine.DefaultValue
import TypedQuery.Engine.Definition
import TypedQuery.Engine.Fault
import TypedQuery.Engine.Frame
import TypedQuery.Engine.Group
import TypedQuery.Engine.Join
import TypedQuery.Engine.Like
import TypedQuery.Engine.Ordering
import TypedQuery.Engine.Preparation
import TypedQuery.Engine.Selection
import TypedQuery.Engine.Store
import TypedQuery.Engine.Stream
import TypedQuery.Error
import TypedQuery.Filter.Basic
import TypedQuery.Filter.Operand
import TypedQuery.Filter.Operator
import TypedQuery.Filter.Slot
import TypedQuery.Main
import TypedQuery.Number.Binary
import TypedQuery.Number.Double
import TypedQuery.Number.Layout
import TypedQuery.Number.Power
import TypedQuery.Number.Reading
import TypedQuery.Number.Shortest
import TypedQuery.Proofs.Calendar.Chronology
import TypedQuery.Proofs.Calendar.Padded
import TypedQuery.Proofs.Calendar.ReadBack
import TypedQuery.Proofs.Calendar.TextOrder
import TypedQuery.Proofs.CommandLine.DryRun
import TypedQuery.Proofs.Database.Identity
import TypedQuery.Proofs.Database.Listing
import TypedQuery.Proofs.Database.Remembering
import TypedQuery.Proofs.Engine.Affinity
import TypedQuery.Proofs.Engine.CellOrder
import TypedQuery.Proofs.Engine.ChosenRows
import TypedQuery.Proofs.Engine.Compound
import TypedQuery.Proofs.Engine.Grouping
import TypedQuery.Proofs.Engine.Like
import TypedQuery.Proofs.Engine.MadeTables
import TypedQuery.Proofs.Engine.Ordinary
import TypedQuery.Proofs.Engine.Rows
import TypedQuery.Proofs.Engine.SetOperators
import TypedQuery.Proofs.Engine.SortedSelection
import TypedQuery.Proofs.Engine.StoredCells
import TypedQuery.Proofs.Engine.TableNames
import TypedQuery.Proofs.Engine.TimeOrder
import TypedQuery.Proofs.Filter.Operand
import TypedQuery.Proofs.Filter.OtherNumbers
import TypedQuery.Proofs.Number.Decimal
import TypedQuery.Proofs.Number.Exact
import TypedQuery.Proofs.Number.Nearest
import TypedQuery.Proofs.Outcome
import TypedQuery.Proofs.Query.Accepted
import TypedQuery.Proofs.Query.Built
import TypedQuery.Proofs.Query.CallOrder
import TypedQuery.Proofs.Query.Filling
import TypedQuery.Proofs.Query.Mention
import TypedQuery.Proofs.Query.NamesInPlace
import TypedQuery.Proofs.Query.NewValues
import TypedQuery.Proofs.Query.Numbering
import TypedQuery.Proofs.Query.OnlyFilter
import TypedQuery.Proofs.Query.Parts
import TypedQuery.Proofs.Query.ReadBack
import TypedQuery.Proofs.Query.Refusal
import TypedQuery.Proofs.Query.Renumbering
import TypedQuery.Proofs.Query.Scope
import TypedQuery.Proofs.Query.SharedColumns
import TypedQuery.Proofs.Query.Skeleton
import TypedQuery.Proofs.Query.Unambiguous
import TypedQuery.Proofs.Schema.Named
import TypedQuery.Proofs.Search.Fault
import TypedQuery.Proofs.Search.Grammar
import TypedQuery.Proofs.Search.Literal
import TypedQuery.Proofs.Search.Naming
import TypedQuery.Proofs.Search.Resolved
import TypedQuery.Proofs.Search.SortKeys
import TypedQuery.Proofs.Search.Spelled
import TypedQuery.Proofs.Search.Token
import TypedQuery.Proofs.Sql.Delimiting
import TypedQuery.Proofs.Sql.Keywords
import TypedQuery.Proofs.Sql.Listing
import TypedQuery.Proofs.Sql.Name
import TypedQuery.Proofs.Sql.Pieces
import TypedQuery.Proofs.Sql.Placeholder
import TypedQuery.Proofs.Sql.Raising
import TypedQuery.Proofs.Sql.Reader
import TypedQuery.Proofs.Statement.KeptTables
import TypedQuery.Proofs.Statement.LookAhead
import TypedQuery.Proofs.Statement.OnlyRow
import TypedQuery.Proofs.Statement.Prepared
import TypedQuery.Proofs.Statement.Rereading
import TypedQuery.Proofs.Statement.Running
import TypedQuery.Proofs.Statement.SameRows
import TypedQuery.Proofs.Statement.Session
import TypedQuery.Proofs.Statement.Storing
import TypedQuery.Proofs.Statement.WrittenRows
import TypedQuery.Proofs.Text.Utf8
import TypedQuery.Proofs.Value.Blob
import TypedQuery.Proofs.Value.Dates
import TypedQuery.Proofs.Value.Packing
import TypedQuery.Proofs.Value.RoundTrip
import TypedQuery.Query.Call
import TypedQuery.Query.Change
import TypedQuery.Query.Clause
import TypedQuery.Query.Relation
import TypedQuery.Query.Rendering
import TypedQuery.Query.Select
import TypedQuery.Schema.Column
import TypedQuery.Search.Condition
import TypedQuery.Search.Sorting
import TypedQuery.Search.Token
import TypedQuery.Settings
import TypedQuery.Settings.Basic
import TypedQuery.Settings.Document
import TypedQuery.Settings.Token
import TypedQuery.Sql.Name
import TypedQuery.Sql.Placeholder
import TypedQuery.Sql.Rendering
import TypedQuery.Statement.Basic
import TypedQuery.Statement.Changing
import TypedQuery.Statement.Cursor
import TypedQuery.Statement.Prepared
import TypedQuery.Statement.Selecting
import TypedQuery.Statement.Trace
import TypedQuery.Text.AlphanumericTable
import TypedQuery.Text.Bytes
import TypedQuery.Text.Classes
import TypedQuery.Text.CodeRange
import TypedQuery.Text.Escaped
import TypedQuery.Text.ExtenderTable
import TypedQuery.Text.NumericTable
import TypedQuery.Text.UnprintableTable
import TypedQuery.Text.Utf8
import TypedQuery.Value.Binding
import TypedQuery.Value.Cell
import TypedQuery.Value.IntType
import TypedQuery.Value.Json
import TypedQuery.Value.Packing
import TypedQuery.Value.Primitive
import TypedQuery.Value.Reading
import TypedQuery.Value.TypeTag
import TypedQuery.Value.ValueType
