import SchemaDdl.Capability
import SchemaDdl.Dialect.Basic

/-!
# SQL Server

A default is a constraint with a name, so altering a column first drops the constraint by its name
and later adds it again. Identifiers stand in square brackets, texts are Unicode literals, and
renaming calls a procedure that takes the identifier as a text.
-/

namespace SchemaDdl.SqlServer

def name : String := "sqlserver"

def capabilities : CapabilityTable where
  dialect := name
  entries := [
    ((Capability.of .ansiString).upToSize 8000).forPrimaryKey,
    .of .ansiString,
    ((Capability.of .ansiStringFixedLength).upToSize 8000).forPrimaryKey,
    (Capability.of .binary).upToSize 8000,
    .of .binary,
    (Capability.of .boolean).forPrimaryKey,
    (Capability.of .byte).forIdentity,
    (Capability.of .currency).forPrimaryKey,
    (Capability.of .date).forPrimaryKey,
    (Capability.of .dateTime).forPrimaryKey,
    (Capability.of .dateTime2).forPrimaryKey,
    (Capability.of .dateTimeOffset).forPrimaryKey,
    (((Capability.of .decimal).upToSize 28).upToScale 28).forPrimaryKey,
    ((Capability.of .decimal).upToSize 28).forIdentity,
    (Capability.of .double).forPrimaryKey,
    (Capability.of .guid).forPrimaryKey,
    (Capability.of .int16).forIdentity,
    (Capability.of .int32).forIdentity,
    (Capability.of .int64).forIdentity,
    (Capability.of .single).forPrimaryKey,
    ((Capability.of .string).upToSize 4000).forPrimaryKey,
    .of .string,
    ((Capability.of .stringFixedLength).upToSize 4000).forPrimaryKey,
    (Capability.of .time).forPrimaryKey,
    .of .xml]

/-- A type of variable length: `MAX` without a size or above a limit. -/
def variableClause (k : SizedKind) (keyword : String) (limit : Nat) : String :=
  match k.positiveSize with
  | some n => if n ≤ limit then s!"{keyword}({n})" else s!"{keyword}(MAX)"
  | none => s!"{keyword}(MAX)"

def typeClause (k : SizedKind) : Except DdlError String :=
  match k.kind with
  | .ansiString => .ok (variableClause k "VARCHAR" 8000)
  | .ansiStringFixedLength => .ok (k.sizedClause "CHAR")
  | .binary => .ok (variableClause k "VARBINARY" 8000)
  | .boolean => .ok "BIT"
  | .byte => .ok "TINYINT"
  | .currency => .ok "MONEY"
  | .date => .ok "DATE"
  | .dateTime => .ok "DATETIME"
  | .dateTime2 => .ok "DATETIME2"
  | .dateTimeOffset => .ok "DATETIMEOFFSET"
  | .decimal => .ok (k.decimalClause "DECIMAL")
  | .double => .ok "FLOAT"
  | .guid => .ok "UNIQUEIDENTIFIER"
  | .int16 => .ok "SMALLINT"
  | .int32 => .ok "INT"
  | .int64 => .ok "BIGINT"
  | .single => .ok "REAL"
  | .string => .ok (variableClause k "NVARCHAR" 4000)
  | .stringFixedLength => .ok (k.sizedClause "NCHAR")
  | .time => .ok "TIME"
  | .xml => .ok "XML"
  | .sByte | .uInt16 | .uInt32 | .uInt64 | .varNumeric => .error (.unmappedKind k.kind name)

def identityClause (k : SizedKind) : Except DdlError String :=
  match k.kind with
  | .byte | .int16 | .int32 | .int64 | .decimal => do
    return (← typeClause k) ++ " IDENTITY(1,1)"
  | _ => .error (.unsupported .identityColumn name)

def unicodeLiteral (text : String) : String := "N" ++ Text.stringLiteral text

/-- A literal; times have milliseconds. -/
def literal : Literal → Except DdlError String
  | .bool b => .ok (if b then "1" else "0")
  | .text s => .ok (unicodeLiteral s)
  | .date d => .ok ("'" ++ d.compact ++ "'")
  | .dateTime m => .ok ("'" ++ m.text "T" (.places 3) ++ "'")
  | .time t => .ok ("'" ++ t.text (.places 3) ++ "'")
  | .binary bytes => .ok ("0x" ++ Text.hexUpper bytes)
  | l => l.commonOrUnmapped name

def sentinel : Sentinel → Except DdlError String
  | .currentDateTime => .ok "GETDATE()"
  | .currentUtcDateTime => .ok "GETUTCDATE()"
  | .newGuid => .ok "NEWID()"

def spelling : Spelling where
  name := name
  maxIdentifierLength := 128
  quote := .bracket
  typeClause := typeClause
  identityClause := identityClause
  literal := literal
  sentinel := sentinel

/-- The identifier of the constraint that holds the default of a column. -/
def defaultConstraint (table column : String) : String :=
  spelling.quoteName (spelling.defaultConstraintName table column)

/-- The default in a column definition, as a constraint with a name of its own. -/
def defaultClause (table : String) (column : Column) : Except DdlError String := do
  match ← spelling.defaultExpression column.default with
  | none => return ""
  | some expression =>
    return " CONSTRAINT " ++ defaultConstraint table column.name ++ " DEFAULT " ++ expression

def vocabulary : Vocabulary where
  toSpelling := spelling
  defaultClause := defaultClause

/-- Drops the constraint that holds the default of a column. -/
def dropDefaultConstraint (table column : String) : String :=
  vocabulary.alterTable table ++ " DROP CONSTRAINT " ++ defaultConstraint table column

/-- Calls the procedure that renames an object. -/
def rename (path newName : String) : String :=
  "EXEC sp_rename " ++ unicodeLiteral path ++ ", " ++ unicodeLiteral newName

def dialect : Dialect where
  toVocabulary := vocabulary
  addColumn table column := do
    return [vocabulary.alterTable table ++ " ADD " ++
      (← vocabulary.columnDefinition table column false)]
  dropDefaultStatement table column guarded :=
    let statement := dropDefaultConstraint table column.name
    if guarded then
      .ok ("IF OBJECT_ID(" ++ unicodeLiteral (defaultConstraint table column.name) ++
        ", N'D') IS NOT NULL " ++ statement)
    else .ok statement
  modifyColumnStatement table column := do
    let type ← typeClause column.kind
    return vocabulary.alterTable table ++ " ALTER COLUMN " ++ vocabulary.quoteName column.name ++
      " " ++ type ++ (if column.nullable then " NULL" else " NOT NULL")
  addDefaultStatement table column := do
    let expression ← vocabulary.requiredDefault table column
    return vocabulary.alterTable table ++ " ADD CONSTRAINT " ++
      defaultConstraint table column.name ++ " DEFAULT " ++ expression ++ " FOR " ++
      vocabulary.quoteName column.name
  dropIndex table name :=
    .ok ["DROP INDEX " ++ vocabulary.quoteName name ++ " ON " ++ vocabulary.quoteName table]
  renameTable oldName newName := .ok [rename (vocabulary.quoteName oldName) newName]
  renameColumn table oldName newName :=
    .ok [rename (vocabulary.quoteName table ++ "." ++ vocabulary.quoteName oldName) newName ++
      ", N'COLUMN'"]
  renamePrimaryKey _table oldName newName :=
    .ok [rename (vocabulary.quoteName oldName) newName ++ ", N'OBJECT'"]
  existsTable database table :=
    "SELECT COUNT(*) FROM " ++ vocabulary.quoteName database ++
      ".INFORMATION_SCHEMA.TABLES WHERE TABLE_NAME = " ++ unicodeLiteral table

end SchemaDdl.SqlServer
