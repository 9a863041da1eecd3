import SchemaDdl.Binary64.Basic
import SchemaDdl.Binary64.Decimal
import SchemaDdl.Calendar.Date
import SchemaDdl.Calendar.DateTime
import SchemaDdl.Calendar.Parser
import SchemaDdl.Calendar.Time
import SchemaDdl.Capability
import SchemaDdl.CommandLine.Arguments
import SchemaDdl.CommandLine.Run
import SchemaDdl.Dialect.Basic
import SchemaDdl.Dialect.Clause
import SchemaDdl.Dialect.Informix
import SchemaDdl.Dialect.Postgresql
import SchemaDdl.Dialect.SqlServer
import SchemaDdl.Dialect.Sqlite
import SchemaDdl.Dialect.Standard
import SchemaDdl.Dialect.Vocabulary
import SchemaDdl.Digest.Sha256
import SchemaDdl.Error
import SchemaDdl.Json.Basic
import SchemaDdl.Json.Decode
import SchemaDdl.Json.Number
import SchemaDdl.Json.Parser
import SchemaDdl.Json.Printer
import SchemaDdl.Json.Text
import SchemaDdl.Json.Token
import SchemaDdl.Listing
import SchemaDdl.Main
import SchemaDdl.Migration
import SchemaDdl.Naming
import SchemaDdl.Plan
import SchemaDdl.PlanFile.Change
import SchemaDdl.PlanFile.Column
import SchemaDdl.PlanFile.Kind
import SchemaDdl.PlanFile.Literal
import SchemaDdl.PlanFile.Load
import SchemaDdl.PlanFile.Plan
import SchemaDdl.Proofs.Accepted
import SchemaDdl.Proofs.Builtin
import SchemaDdl.Proofs.Settled
import SchemaDdl.Registry
import SchemaDdl.Render
import SchemaDdl.Schema.Change
import SchemaDdl.Schema.Column
import SchemaDdl.Schema.Kind
import SchemaDdl.Schema.Literal
import SchemaDdl.Text.Blank
import SchemaDdl.Text.Digits
import SchemaDdl.Text.Quoted
import SchemaDdl.Text.Utf8
import SchemaDdl.Proofs.Expressible
import SchemaDdl.Proofs.Lexical.Token
import SchemaDdl.Proofs.Lexical.Written
import SchemaDdl.Proofs.Lexical.Alike
import SchemaDdl.Proofs.Lexical.Unquoted
import SchemaDdl.Proofs.SameShape
import SchemaDdl.Proofs.Lexical.Vocabulary
import SchemaDdl.Proofs.Lexical.Builtin
import SchemaDdl.Proofs.Lexical.Table
import SchemaDdl.Proofs.Lexical.Statement
import SchemaDdl.Proofs.Lexical.Change
import SchemaDdl.Proofs.Quoting
import SchemaDdl.Proofs.ScriptText
import SchemaDdl.Proofs.CarriedDefault
import SchemaDdl.Proofs.NewTable
import SchemaDdl.Proofs.IdentityColumns
import SchemaDdl.Proofs.DeclaredSize
import SchemaDdl.Proofs.PlanPhases
import SchemaDdl.Proofs.RoleVerdicts
import SchemaDdl.Proofs.ClosestEntry
import SchemaDdl.Proofs.Utf8
import SchemaDdl.Proofs.DerivedName
import SchemaDdl.Proofs.NameCollision
import SchemaDdl.Proofs.WrittenNumber
import SchemaDdl.Proofs.CalendarReading
import SchemaDdl.Proofs.LiteralValues
import SchemaDdl.Proofs.DeclaredLimits
import SchemaDdl.Proofs.Batch
import SchemaDdl.Proofs.Chronology
import SchemaDdl.Proofs.VersionOrder
import SchemaDdl.Proofs.AlteredColumn
import SchemaDdl.Proofs.FittingEntry
import SchemaDdl.Proofs.StatementSteps
import SchemaDdl.Proofs.SizeZero
import SchemaDdl.Proofs.JsonReading
import SchemaDdl.Proofs.MigrationText
import SchemaDdl.Proofs.NameList
