import SheetSearch.AssetFormat
import SheetSearch.Client.Config
import SheetSearch.Client.ConfigFile
import SheetSearch.Client.Endpoint
import SheetSearch.Client.Exchange
import SheetSearch.CommandLine.Execution
import SheetSearch.CommandLine.Invocation
import SheetSearch.CommandLine.Switch
import SheetSearch.Decimal.Binary
import SheetSearch.Decimal.Layout
import SheetSearch.Decimal.Numeral
import SheetSearch.Decimal.Shortest
import SheetSearch.Field
import SheetSearch.Http.Message
import SheetSearch.Http.Offline
import SheetSearch.Json.Document
import SheetSearch.Json.Fault
import SheetSearch.Json.Number
import SheetSearch.Json.Printer
import SheetSearch.Json.Quoted
import SheetSearch.Json.Shape
import SheetSearch.Json.Value
import SheetSearch.Json.Walk
import SheetSearch.Language
import SheetSearch.Main
import SheetSearch.Plan
import SheetSearch.Proofs.Decimal.Plain
import SheetSearch.Proofs.Decimal.Whole
import SheetSearch.Proofs.Outcome
import SheetSearch.Proofs.Query.Condition
import SheetSearch.Proofs.Query.Elements
import SheetSearch.Proofs.Query.Failure
import SheetSearch.Proofs.Query.Grammar
import SheetSearch.Proofs.Query.Readback
import SheetSearch.Proofs.Query.Respelling
import SheetSearch.Proofs.Query.Unambiguity
import SheetSearch.Proofs.Text.Pieces
import SheetSearch.Proofs.Text.Runs
import SheetSearch.Query.Clause
import SheetSearch.Query.Condition
import SheetSearch.Query.Literal
import SheetSearch.Query.Operator
import SheetSearch.Query.Program
import SheetSearch.Query.Trace
import SheetSearch.Response.Basic
import SheetSearch.Response.Report
import SheetSearch.Spinner
import SheetSearch.Storage.Disk
import SheetSearch.Storage.FileError
import SheetSearch.Storage.Path
import SheetSearch.Text.Blank
import SheetSearch.Text.Bounds
import SheetSearch.Text.CombiningClass
import SheetSearch.Text.Composition
import SheetSearch.Text.Hex
import SheetSearch.Text.Marks
import SheetSearch.Text.Pieces
import SheetSearch.Text.Printable
import SheetSearch.Text.Quoted
import SheetSearch.Text.Rows
import SheetSearch.Text.Utf8
import SheetSearch.Url.Address
import SheetSearch.Url.Basic
import SheetSearch.Url.Domain
import SheetSearch.Url.Domain.Direction
import SheetSearch.Url.Domain.Joiner
import SheetSearch.Url.Domain.Mapping
import SheetSearch.Url.Form
import SheetSearch.Url.Host
import SheetSearch.Url.Percent
import SheetSearch.Url.Punycode
import SheetSearch.Url.Reader
import SheetSearch.Url.Segment
import SheetSearch.Proofs.Query.Collector
import SheetSearch.Proofs.Text.Utf8
import SheetSearch.Proofs.Url.Percent
import SheetSearch.Proofs.Url.Form
import SheetSearch.Proofs.Url.Path
import SheetSearch.Proofs.Url.Web
import SheetSearch.Proofs.Client.Builder
import SheetSearch.Proofs.Client.Parameters
import SheetSearch.Proofs.Client.Arguments
import SheetSearch.Proofs.Client.Session
import SheetSearch.Proofs.Client.Confinement
import SheetSearch.Proofs.Client.Selection
import SheetSearch.Proofs.Json.Number
import SheetSearch.Proofs.Json.Quoted
import SheetSearch.Proofs.Json.Document
import SheetSearch.Proofs.Json.Table
import SheetSearch.Proofs.Json.Walk
import SheetSearch.Proofs.Json.Value
import SheetSearch.Proofs.Json.Locality
import SheetSearch.Proofs.Json.Spelling
import SheetSearch.Proofs.Json.Printer
import SheetSearch.Proofs.Json.Record
import SheetSearch.Proofs.Json.Shape
import SheetSearch.Proofs.Json.Depth
import SheetSearch.Proofs.Response.Printed
import SheetSearch.Proofs.Response.Flattening
import SheetSearch.Proofs.Query.Literal
import SheetSearch.Proofs.Query.ConditionText
import SheetSearch.Proofs.CommandLine.Uses
import SheetSearch.Proofs.CommandLine.Run
import SheetSearch.Proofs.CommandLine.Search
import SheetSearch.Proofs.Storage.Disk
import SheetSearch.Proofs.Client.ConfigFile
import SheetSearch.Proofs.CommandLine.Stored
import SheetSearch.Proofs.Json.Declared
import SheetSearch.Proofs.Json.Place
import SheetSearch.Proofs.Json.Layout
import SheetSearch.Proofs.Response.Layout
import SheetSearch.Proofs.Text.Offset
import SheetSearch.Proofs.Query.ConditionOutcome
import SheetSearch.Proofs.Decimal.Fraction
import SheetSearch.Proofs.Decimal.Rounding
import SheetSearch.Proofs.Decimal.Written
import SheetSearch.Proofs.Query.Classification
import SheetSearch.Proofs.Client.Persistence
import SheetSearch.Proofs.CommandLine.Requests
import SheetSearch.Proofs.CommandLine.Spelling
import SheetSearch.Proofs.CommandLine.Drafts
import SheetSearch.Proofs.FieldNames
import SheetSearch.Proofs.FieldColumns
import SheetSearch.Proofs.Query.Sign
import SheetSearch.Proofs.Client.Overriding
import SheetSearch.Proofs.Json.Controls
import SheetSearch.Proofs.Response.Terminal
import SheetSearch.Proofs.Response.Colours
import SheetSearch.Proofs.Client.ErrorBody
import SheetSearch.Proofs.CommandLine.Downloads
import SheetSearch.Proofs.Url.Parts
import SheetSearch.Proofs.Url.Spelling
import SheetSearch.Proofs.Client.TrailingSlash
import SheetSearch.Proofs.Json.Extent
import SheetSearch.Proofs.Json.Closing
import SheetSearch.Proofs.Json.Complete
import SheetSearch.Proofs.Client.CutBody
import SheetSearch.Proofs.Decimal.Interval
import SheetSearch.Proofs.Decimal.Shortest
import SheetSearch.Proofs.Decimal.OwnText
import SheetSearch.Proofs.Decimal.Widening
import SheetSearch.Proofs.Query.SinglePrecision
