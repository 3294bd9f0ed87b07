import SqlMigrations.Catalog.CheckClause
import SqlMigrations.Catalog.Describer
import SqlMigrations.Catalog.Inspection
import SqlMigrations.Catalog.MySql
import SqlMigrations.Catalog.Postgres
import SqlMigrations.Catalog.Sqlite
import SqlMigrations.Checkpoint.Amend
import SqlMigrations.Checkpoint.Record
import SqlMigrations.Checkpoint.Table
import SqlMigrations.Config.DurationText
import SqlMigrations.Config.Expand
import SqlMigrations.Config.Settings
import SqlMigrations.Connection.IpAddress
import SqlMigrations.Connection.LogSettings
import SqlMigrations.Connection.Network
import SqlMigrations.Connection.Options
import SqlMigrations.Connection.Retry
import SqlMigrations.Connection.Surroundings
import SqlMigrations.Dialect
import SqlMigrations.Dsn.Clean
import SqlMigrations.Dsn.Mask
import SqlMigrations.Dsn.MySql
import SqlMigrations.Dsn.MySqlLogin
import SqlMigrations.Dsn.PostgresUrl
import SqlMigrations.Dsn.SqliteFile
import SqlMigrations.Dsn.SqliteUrl
import SqlMigrations.Dsn.UrlAuthority
import SqlMigrations.Dsn.UrlParts
import SqlMigrations.Error
import SqlMigrations.Lock.Advisory
import SqlMigrations.Migration.Host
import SqlMigrations.Migration.Migrate
import SqlMigrations.NameMap
import SqlMigrations.Proofs.Catalog.BestEffort
import SqlMigrations.Proofs.Catalog.CheckExtent
import SqlMigrations.Proofs.Catalog.CheckLines
import SqlMigrations.Proofs.Catalog.CheckOffsets
import SqlMigrations.Proofs.Catalog.CheckScan
import SqlMigrations.Proofs.Catalog.CheckedColumns
import SqlMigrations.Proofs.Catalog.Columns
import SqlMigrations.Proofs.Catalog.Courses
import SqlMigrations.Proofs.Catalog.EnumTypes
import SqlMigrations.Proofs.Catalog.Failures
import SqlMigrations.Proofs.Catalog.Listing
import SqlMigrations.Proofs.Catalog.PrimaryIndex
import SqlMigrations.Proofs.Catalog.SizedTypes
import SqlMigrations.Proofs.Catalog.Temporary
import SqlMigrations.Proofs.Checkpoint.Covered
import SqlMigrations.Proofs.Checkpoint.Keys
import SqlMigrations.Proofs.Checkpoint.Rows
import SqlMigrations.Proofs.Config.Durations
import SqlMigrations.Proofs.Config.References
import SqlMigrations.Proofs.Connection.Attempts
import SqlMigrations.Proofs.Database.Contents
import SqlMigrations.Proofs.Database.Engine
import SqlMigrations.Proofs.Database.Faulty
import SqlMigrations.Proofs.Database.Held
import SqlMigrations.Proofs.Database.Session
import SqlMigrations.Proofs.Database.Steady
import SqlMigrations.Proofs.Database.Transcript
import SqlMigrations.Proofs.Dsn.SessionOptions
import SqlMigrations.Proofs.Dsn.Veil
import SqlMigrations.Proofs.Dsn.Written
import SqlMigrations.Proofs.Lock.Keys
import SqlMigrations.Proofs.NameMap
import SqlMigrations.Proofs.Runner.Applied
import SqlMigrations.Proofs.Runner.Commands
import SqlMigrations.Proofs.Runner.Completion
import SqlMigrations.Proofs.Runner.Conclusion
import SqlMigrations.Proofs.Runner.Counterpart
import SqlMigrations.Proofs.Runner.Discipline
import SqlMigrations.Proofs.Runner.DryRun
import SqlMigrations.Proofs.Runner.ExactlyOnce
import SqlMigrations.Proofs.Runner.Exchanges
import SqlMigrations.Proofs.Runner.Failures
import SqlMigrations.Proofs.Runner.File
import SqlMigrations.Proofs.Runner.FinalIndex
import SqlMigrations.Proofs.Runner.Finality
import SqlMigrations.Proofs.Runner.FirstFailure
import SqlMigrations.Proofs.Runner.History
import SqlMigrations.Proofs.Runner.Interference
import SqlMigrations.Proofs.Runner.Lookups
import SqlMigrations.Proofs.Runner.LostWork
import SqlMigrations.Proofs.Runner.Mirror
import SqlMigrations.Proofs.Runner.Reports
import SqlMigrations.Proofs.Runner.Resumption
import SqlMigrations.Proofs.Runner.Rulings
import SqlMigrations.Proofs.Runner.RunErrors
import SqlMigrations.Proofs.Runner.Runs
import SqlMigrations.Proofs.Runner.Savepoints
import SqlMigrations.Proofs.Runner.Sending
import SqlMigrations.Proofs.Runner.Sent
import SqlMigrations.Proofs.Runner.Settlement
import SqlMigrations.Proofs.Runner.Statements
import SqlMigrations.Proofs.Runner.Transcripts
import SqlMigrations.Proofs.Schema.IndexOrder
import SqlMigrations.Proofs.Schema.KeyMarks
import SqlMigrations.Proofs.Schema.LabelList
import SqlMigrations.Proofs.Schema.Marks
import SqlMigrations.Proofs.Schema.Pieces
import SqlMigrations.Proofs.Schema.RoundTrip
import SqlMigrations.Proofs.Schema.Settled
import SqlMigrations.Proofs.Schema.TitleWords
import SqlMigrations.Proofs.Schema.Widths
import SqlMigrations.Proofs.Statement.Appending
import SqlMigrations.Proofs.Statement.Blocks
import SqlMigrations.Proofs.Statement.Calls
import SqlMigrations.Proofs.Statement.Comments
import SqlMigrations.Proofs.Statement.Filling
import SqlMigrations.Proofs.Statement.LineEnds
import SqlMigrations.Proofs.Statement.NormalForm
import SqlMigrations.Proofs.Store.Directories
import SqlMigrations.Proofs.Store.Insertions
import SqlMigrations.Proofs.Store.Plan
import SqlMigrations.Proofs.Store.Reach
import SqlMigrations.Proofs.Store.Replacement
import SqlMigrations.Proofs.Store.Walk
import SqlMigrations.Proofs.Text.ByteOrder
import SqlMigrations.Proofs.Text.CaseMapping
import SqlMigrations.Proofs.Text.Decimal
import SqlMigrations.Proofs.Text.FormUrl
import SqlMigrations.Proofs.Text.Hex
import SqlMigrations.Proofs.Text.Offsets
import SqlMigrations.Proofs.Text.Search
import SqlMigrations.Proofs.Text.Trim
import SqlMigrations.Proofs.Text.Utf8
import SqlMigrations.Proofs.Text.Words
import SqlMigrations.Runner.Apply
import SqlMigrations.Runner.Database
import SqlMigrations.Runner.Print
import SqlMigrations.Runner.Received
import SqlMigrations.Runner.Run
import SqlMigrations.Runner.Scripted
import SqlMigrations.Runner.Transaction
import SqlMigrations.Schema.EnumType
import SqlMigrations.Schema.Json
import SqlMigrations.Schema.Keys
import SqlMigrations.Schema.Model
import SqlMigrations.Schema.SizedType
import SqlMigrations.Schema.Title
import SqlMigrations.Schema.TypeClass
import SqlMigrations.Statement.Split
import SqlMigrations.Store.DatabaseFile
import SqlMigrations.Store.FileSet
import SqlMigrations.Store.FileSystem
import SqlMigrations.Store.Load
import SqlMigrations.Store.Tree
import SqlMigrations.Text.Blank
import SqlMigrations.Text.Case
import SqlMigrations.Text.CaseTable
import SqlMigrations.Text.FormUrl
import SqlMigrations.Text.Number
import SqlMigrations.Text.Quoted
import SqlMigrations.Text.Search
import SqlMigrations.Text.Utf8
import SqlMigrations.Toml.Document
import SqlMigrations.Toml.Number
import SqlMigrations.Toml.Text
import SqlMigrations.Toml.Value
