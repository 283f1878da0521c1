import SqlWeave.Bytes
import SqlWeave.ChangeSet
import SqlWeave.Composer
import SqlWeave.Environment
import SqlWeave.Identifier
import SqlWeave.Json.Basic
import SqlWeave.Json.Printer
import SqlWeave.Json.Reader
import SqlWeave.Json.View
import SqlWeave.LogSettings
import SqlWeave.Number.Binary
import SqlWeave.Number.Layout
import SqlWeave.Number.Shortest
import SqlWeave.Postgres.Binding
import SqlWeave.Postgres.ConnectionSettings
import SqlWeave.Postgres.Encoding
import SqlWeave.Postgres.Executor
import SqlWeave.Postgres.Failure
import SqlWeave.Postgres.Pool
import SqlWeave.Postgres.Row
import SqlWeave.Postgres.Server
import SqlWeave.Postgres.Type
import SqlWeave.Proofs.Bytes
import SqlWeave.Proofs.ChangeSet
import SqlWeave.Proofs.Composition.Adoption
import SqlWeave.Proofs.Composition.Batch
import SqlWeave.Proofs.Composition.Confinement
import SqlWeave.Proofs.Composition.Conservation
import SqlWeave.Proofs.Composition.Invariant
import SqlWeave.Proofs.Composition.Joining
import SqlWeave.Proofs.Composition.Meaning
import SqlWeave.Proofs.Composition.Mode
import SqlWeave.Proofs.Composition.Noninterference
import SqlWeave.Proofs.Composition.Numbering
import SqlWeave.Proofs.Composition.Plan
import SqlWeave.Proofs.Composition.Reachable
import SqlWeave.Proofs.Composition.Rewrapping
import SqlWeave.Proofs.Composition.Role
import SqlWeave.Proofs.Composition.Splicing
import SqlWeave.Proofs.Composition.Tracking
import SqlWeave.Proofs.Fragment.Declared
import SqlWeave.Proofs.Fragment.Reader
import SqlWeave.Proofs.Identifier
import SqlWeave.Proofs.Identifier.Reading
import SqlWeave.Proofs.Json.Numerals
import SqlWeave.Proofs.Json.Ordering
import SqlWeave.Proofs.Json.Reading
import SqlWeave.Proofs.Json.Strings
import SqlWeave.Proofs.Phrase
import SqlWeave.Proofs.Postgres.Arrays
import SqlWeave.Proofs.Postgres.Binding
import SqlWeave.Proofs.Postgres.Calls
import SqlWeave.Proofs.Postgres.ConnectionSettings
import SqlWeave.Proofs.Postgres.Documents
import SqlWeave.Proofs.Postgres.Encoding
import SqlWeave.Proofs.Postgres.Execution
import SqlWeave.Proofs.Postgres.Failure
import SqlWeave.Proofs.Postgres.Instants
import SqlWeave.Proofs.Postgres.Scalars
import SqlWeave.Proofs.QueryError.Report
import SqlWeave.Proofs.Scalar.Document
import SqlWeave.Proofs.Scalar.Reading
import SqlWeave.Proofs.Session
import SqlWeave.Proofs.Statement.Cutting
import SqlWeave.Proofs.Statement.Glyph
import SqlWeave.Proofs.Statement.Inlining
import SqlWeave.Proofs.Statement.Numbering
import SqlWeave.Proofs.Statement.Resolution
import SqlWeave.Proofs.Statement.Scanner
import SqlWeave.Proofs.Statement.Scanning
import SqlWeave.Proofs.Statement.Tokens
import SqlWeave.Proofs.Statement.WellFormed
import SqlWeave.Proofs.TableSlot
import SqlWeave.Proofs.Template
import SqlWeave.Proofs.Template.Format
import SqlWeave.Proofs.Template.FrontEnds
import SqlWeave.Proofs.Text.Boundary
import SqlWeave.Proofs.Text.Digits
import SqlWeave.Proofs.Text.Hexadecimal
import SqlWeave.Proofs.Text.Layout
import SqlWeave.Proofs.Text.Padded
import SqlWeave.Proofs.Text.Slice
import SqlWeave.Proofs.Text.Utf8
import SqlWeave.Proofs.Time.Calendar
import SqlWeave.Proofs.Time.Dates
import SqlWeave.Proofs.Time.Relaxed
import SqlWeave.Proofs.Time.Strict
import SqlWeave.Proofs.Url.Percent
import SqlWeave.Proofs.Url.Reading
import SqlWeave.Proofs.Uuid
import SqlWeave.QueryError.Basic
import SqlWeave.QueryError.Code
import SqlWeave.Scalar.Basic
import SqlWeave.Scalar.Document
import SqlWeave.Session
import SqlWeave.Settings.Basic
import SqlWeave.Settings.Json
import SqlWeave.Settings.Toml
import SqlWeave.Statement
import SqlWeave.TableSchema
import SqlWeave.TableSlot
import SqlWeave.Template
import SqlWeave.Text.Alphanumeric
import SqlWeave.Text.Blank
import SqlWeave.Text.Case
import SqlWeave.Text.Decimal
import SqlWeave.Text.Quoted
import SqlWeave.Text.Range
import SqlWeave.Text.Unprintable
import SqlWeave.Text.Utf8
import SqlWeave.Time.Calendar
import SqlWeave.Time.Reader
import SqlWeave.Time.Timestamp
import SqlWeave.Toml.Basic
import SqlWeave.Toml.Reader
import SqlWeave.Url.Ipv6
import SqlWeave.Url.Percent
import SqlWeave.Url.Reader
import SqlWeave.Uuid
import SqlWeave.Value
