import CanaryMetrics.Calendar.Date
import CanaryMetrics.Catalog.Basic
import CanaryMetrics.Catalog.Inquiry
import CanaryMetrics.Catalog.Loading
import CanaryMetrics.Catalog.Reader
import CanaryMetrics.CommandLine.Arguments
import CanaryMetrics.CommandLine.Command
import CanaryMetrics.CommandLine.Report
import CanaryMetrics.Datum.Basic
import CanaryMetrics.Datum.Field
import CanaryMetrics.Datum.Reader
import CanaryMetrics.Decimal.Double
import CanaryMetrics.Decimal.Shortest
import CanaryMetrics.Environment.Basic
import CanaryMetrics.Environment.File
import CanaryMetrics.Environment.Line
import CanaryMetrics.Environment.Template
import CanaryMetrics.Event
import CanaryMetrics.FileTree
import CanaryMetrics.Instant.Basic
import CanaryMetrics.Instant.Reader
import CanaryMetrics.Instant.Writer
import CanaryMetrics.Json.Datum
import CanaryMetrics.Json.Numeral
import CanaryMetrics.Json.Record
import CanaryMetrics.Json.Token
import CanaryMetrics.Json.Value
import CanaryMetrics.Main
import CanaryMetrics.Metric.Basic
import CanaryMetrics.Metric.Reader
import CanaryMetrics.Proofs.Calendar.Counting
import CanaryMetrics.Proofs.Calendar.DayNumber
import CanaryMetrics.Proofs.Catalog.RoundTrip
import CanaryMetrics.Proofs.Catalog.Tags
import CanaryMetrics.Proofs.Catalog.TwoFormats
import CanaryMetrics.Proofs.Catalog.Written
import CanaryMetrics.Proofs.CommandLine.Directory
import CanaryMetrics.Proofs.CommandLine.EveryMetric
import CanaryMetrics.Proofs.CommandLine.Options
import CanaryMetrics.Proofs.CommandLine.SingleMetric
import CanaryMetrics.Proofs.Datum.Drafts
import CanaryMetrics.Proofs.Datum.Offences
import CanaryMetrics.Proofs.Datum.Readers
import CanaryMetrics.Proofs.Datum.Slots
import CanaryMetrics.Proofs.Datum.Types
import CanaryMetrics.Proofs.Environment.Loaded
import CanaryMetrics.Proofs.Except
import CanaryMetrics.Proofs.Instant.Accepted
import CanaryMetrics.Proofs.Instant.Divided
import CanaryMetrics.Proofs.Instant.Grammar
import CanaryMetrics.Proofs.Instant.Printed
import CanaryMetrics.Proofs.Instant.RoundTrip
import CanaryMetrics.Proofs.Json.Members
import CanaryMetrics.Proofs.Json.Numerals
import CanaryMetrics.Proofs.Json.Positional
import CanaryMetrics.Proofs.Json.Records
import CanaryMetrics.Proofs.Json.Spelling
import CanaryMetrics.Proofs.Json.Strings
import CanaryMetrics.Proofs.Json.Tokens
import CanaryMetrics.Proofs.Json.Utf16
import CanaryMetrics.Proofs.Json.Values
import CanaryMetrics.Proofs.Json.Writers
import CanaryMetrics.Proofs.KeyOrder
import CanaryMetrics.Proofs.Metric.Described
import CanaryMetrics.Proofs.Metric.Faults
import CanaryMetrics.Proofs.Query.Appended
import CanaryMetrics.Proofs.Query.Expression
import CanaryMetrics.Proofs.Query.Outcome
import CanaryMetrics.Proofs.Query.Tags
import CanaryMetrics.Proofs.Query.Unambiguous
import CanaryMetrics.Proofs.Scope.Described
import CanaryMetrics.Proofs.Session.Runs
import CanaryMetrics.Proofs.Session.Steps
import CanaryMetrics.Proofs.StringMap
import CanaryMetrics.Proofs.Text.DigitRun
import CanaryMetrics.Proofs.Text.Joined
import CanaryMetrics.Proofs.Text.Utf8
import CanaryMetrics.Proofs.Toml.AsJson
import CanaryMetrics.Proofs.Toml.DistinctKeys
import CanaryMetrics.Proofs.Toml.Documents
import CanaryMetrics.Proofs.Toml.Keys
import CanaryMetrics.Proofs.Toml.Strings
import CanaryMetrics.Proofs.Toml.Tables
import CanaryMetrics.Proofs.Toml.Values
import CanaryMetrics.Proofs.Toml.Words
import CanaryMetrics.Query.Build
import CanaryMetrics.Query.Filter
import CanaryMetrics.Query.Statement
import CanaryMetrics.Scope.Basic
import CanaryMetrics.Scope.Reader
import CanaryMetrics.Session
import CanaryMetrics.StringMap
import CanaryMetrics.Text.Alphanumeric
import CanaryMetrics.Text.Blank
import CanaryMetrics.Text.Harmless
import CanaryMetrics.Text.Hex
import CanaryMetrics.Text.Padded
import CanaryMetrics.Text.Quoted
import CanaryMetrics.Text.Unprintable
import CanaryMetrics.Toml.DateTime
import CanaryMetrics.Toml.Document
import CanaryMetrics.Toml.Scalar
import CanaryMetrics.Toml.Strings
import CanaryMetrics.Toml.Syntax
import CanaryMetrics.Toml.Table
import CanaryMetrics.Toml.Value
