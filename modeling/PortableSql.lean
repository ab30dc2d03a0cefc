import PortableSql.Catalog.Folding
import PortableSql.Catalog.Listing
import PortableSql.Catalog.Query
import PortableSql.Catalog.TypeRules
import PortableSql.CatalogDefault
import PortableSql.ColumnType
import PortableSql.Connection.Basic
import PortableSql.Connection.Config
import PortableSql.Connection.Schema
import PortableSql.Connection.Transaction
import PortableSql.Dialect
import PortableSql.Dialect.Definition
import PortableSql.Dialect.Function
import PortableSql.Dialect.Quoting
import PortableSql.Dialect.Statement
import PortableSql.Dialect.Tuple
import PortableSql.Driver.Address
import PortableSql.Driver.Basic
import PortableSql.Driver.Bundled
import PortableSql.Driver.Recording
import PortableSql.Error
import PortableSql.Event
import PortableSql.Json.Basic
import PortableSql.Json.Parser
import PortableSql.Json.Printer
import PortableSql.Json.Record
import PortableSql.Keyed
import PortableSql.NativeType
import PortableSql.Number.Binary64
import PortableSql.Number.Decimal
import PortableSql.Number.Notation
import PortableSql.Number.Numeral
import PortableSql.Param
import PortableSql.Row
import PortableSql.SortedMap
import PortableSql.Store.Affinity
import PortableSql.Store.Basic
import PortableSql.Store.Catalog
import PortableSql.Store.Change
import PortableSql.Store.Data
import PortableSql.Store.Define
import PortableSql.Store.Delete
import PortableSql.Store.Fault
import PortableSql.Store.Insert
import PortableSql.Store.Reader
import PortableSql.Store.Reading
import PortableSql.Store.Reference
import PortableSql.Store.Statement
import PortableSql.Store.Token
import PortableSql.Store.Value
import PortableSql.Table.Basic
import PortableSql.Table.Edit
import PortableSql.Table.Form
import PortableSql.Table.Kinds
import PortableSql.Text.Blank
import PortableSql.Text.Bytes
import PortableSql.Text.CaseTable
import PortableSql.Text.Casing
import PortableSql.Text.Chars
import PortableSql.Text.Hidden
import PortableSql.Text.Letter
import PortableSql.Text.Quoted
import PortableSql.Text.Ranges
import PortableSql.Text.Utf8
import PortableSql.TypeCategory
import PortableSql.Url.Basic
import PortableSql.Url.Database
import PortableSql.Url.Form
import PortableSql.Url.Host
import PortableSql.Url.Library
import PortableSql.Url.Percent
import PortableSql.Proofs.Catalog.Columns
import PortableSql.Proofs.Catalog.Constraints
import PortableSql.Proofs.Catalog.Folding
import PortableSql.Proofs.Catalog.ForeignKeyListing
import PortableSql.Proofs.Catalog.ForeignKeys
import PortableSql.Proofs.Catalog.GeneratedColumns
import PortableSql.Proofs.Catalog.Grouping
import PortableSql.Proofs.Catalog.IndexListing
import PortableSql.Proofs.Catalog.Indexes
import PortableSql.Proofs.Catalog.Listing
import PortableSql.Proofs.Catalog.Parts
import PortableSql.Proofs.Catalog.Recorded
import PortableSql.Proofs.Catalog.SqliteColumns
import PortableSql.Proofs.Catalog.SqliteTypes
import PortableSql.Proofs.Catalog.UniqueIndexes
import PortableSql.Proofs.Catalog.Updates
import PortableSql.Proofs.CatalogDefault
import PortableSql.Proofs.Connection.Alternation
import PortableSql.Proofs.Connection.Blocks
import PortableSql.Proofs.Connection.Calls
import PortableSql.Proofs.Connection.Description
import PortableSql.Proofs.Connection.Failure
import PortableSql.Proofs.Connection.Move
import PortableSql.Proofs.Connection.NestedTransactions
import PortableSql.Proofs.Connection.LiveSavePoints
import PortableSql.Proofs.Connection.Logged
import PortableSql.Proofs.Connection.Outermost
import PortableSql.Proofs.Connection.Running
import PortableSql.Proofs.Connection.SavePointStack
import PortableSql.Proofs.Connection.Server
import PortableSql.Proofs.Connection.Tapped
import PortableSql.Proofs.Connection.Work
import PortableSql.Proofs.Dialect.ColumnType
import PortableSql.Proofs.Dialect.Definition
import PortableSql.Proofs.Dialect.Generated
import PortableSql.Proofs.Dialect.Outline
import PortableSql.Proofs.Dialect.Quoting
import PortableSql.Proofs.Dialect.Reading
import PortableSql.Proofs.Keyed
import PortableSql.Proofs.NativeType
import PortableSql.Proofs.Number.Notation
import PortableSql.Proofs.Number.Numeral
import PortableSql.Proofs.Table.Editing
import PortableSql.Proofs.Table.WellFormed
import PortableSql.Proofs.Text.Chars
import PortableSql.Proofs.Keyed.History
import PortableSql.Proofs.Table.History
import PortableSql.Proofs.Dialect.Condition
import PortableSql.Proofs.Dialect.TableName
import PortableSql.Proofs.Dialect.TupleTruth
import PortableSql.Proofs.CatalogDefault.Dressing
import PortableSql.Proofs.Catalog.MysqlTypes
import PortableSql.Proofs.Catalog.SqliteKey
import PortableSql.Proofs.CatalogDefault.Compound
import PortableSql.Proofs.Dialect.Subselect
import PortableSql.Proofs.Text.Scanner
import PortableSql.Proofs.Number.Scanner
import PortableSql.Proofs.Dialect.Literal
import PortableSql.Proofs.Connection.Masking
import PortableSql.Proofs.Dialect.MysqlText
import PortableSql.Proofs.Dialect.QuotedNames
import PortableSql.Proofs.Text.Marks
import PortableSql.Proofs.Catalog.Documents
import PortableSql.Proofs.CatalogDefault.Matching
import PortableSql.Proofs.CatalogDefault.Rounds
import PortableSql.Proofs.CatalogDefault.Unchanged
import PortableSql.Proofs.Catalog.RowDefaults
import PortableSql.Proofs.Catalog.MysqlDefaults
import PortableSql.Proofs.Catalog.ObjectName
import PortableSql.Proofs.Catalog.CallDefaults
import PortableSql.Proofs.Text.Casing
import PortableSql.Proofs.Number.DecimalText
import PortableSql.Proofs.Dialect.DateModifier
import PortableSql.Proofs.Connection.ForeignKeyChecks
import PortableSql.Proofs.Connection.NeededValues
import PortableSql.Proofs.Dialect.GeneratedDefault
import PortableSql.Proofs.Dialect.KeyClauses
import PortableSql.Proofs.Text.Words
import PortableSql.Proofs.NativeType.Spelling
import PortableSql.Proofs.Dialect.IntervalSpelling
import PortableSql.Proofs.Text.Utf8
import PortableSql.Proofs.Url.Percent
import PortableSql.Proofs.Url.Form
import PortableSql.Proofs.Url.Ipv6
import PortableSql.Proofs.Url.Authority
import PortableSql.Proofs.Url.Path
import PortableSql.Proofs.Url.RoundTrip
import PortableSql.Proofs.Url.Query
import PortableSql.Proofs.Url.Library
import PortableSql.Proofs.Url.Product
import PortableSql.Proofs.Url.Lawful
import PortableSql.Proofs.Url.Options
import PortableSql.Proofs.Url.DerivedId
