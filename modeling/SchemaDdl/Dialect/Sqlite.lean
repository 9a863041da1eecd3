import SchemaDdl.Capability
import SchemaDdl.Dialect.Basic

/-!
# SQLite

Altering a table only adds, drops and renames. Whatever touches the definition of an existing column
or a constraint would need the table to be built anew and is not supported. An identity column
becomes an alias of the row number, provided that it alone makes up the primary key.
-/

namespace SchemaDdl.Sqlite

def name : String := "sqlite"

def identityWarning : String :=
  "Identity columns become rowid aliases and must be the table's only primary key column."

def capabilities : CapabilityTable where
  dialect := name
  entries := [
    ((Capability.of .ansiString).upToSize 1000000000).forPrimaryKey,
    .of .ansiString,
    .of .binary,
    (Capability.of .boolean).forPrimaryKey,
    (Capability.of .byte).forPrimaryKey,
    (Capability.of .date).forPrimaryKey,
    (Capability.of .dateTime).forPrimaryKey,
    (((Capability.of .decimal).upToSize 28).upToScale 28).forPrimaryKey,
    ((Capability.of .decimal).upToSize 28).forPrimaryKey,
    (Capability.of .double).forPrimaryKey,
    (Capability.of .guid).forPrimaryKey,
    (Capability.of .int16).forPrimaryKey,
    (Capability.of .int32).forIdentity.withWarning identityWarning,
    (Capability.of .int64).forIdentity.withWarning identityWarning,
    (Capability.of .single).forPrimaryKey,
    ((Capability.of .string).upToSize 1000000000).forPrimaryKey,
    .of .string,
    (Capability.of .time).forPrimaryKey]

/-- The type of a kind. Sizes are declared although they are not enforced. -/
def typeClause (k : SizedKind) : String :=
  match k.kind with
  | .boolean | .byte | .sByte | .int16 | .int32 | .int64 | .uInt16 | .uInt32 | .uInt64 => "INTEGER"
  | .single | .double => "REAL"
  | .currency | .decimal | .varNumeric => k.decimalClause "NUMERIC"
  | .ansiString | .string =>
    match k.positiveSize with
    | some n => s!"VARCHAR({n})"
    | none => "TEXT"
  | .ansiStringFixedLength | .stringFixedLength => k.sizedClause "CHAR"
  | .date | .dateTime | .dateTime2 | .dateTimeOffset | .time | .guid | .xml => "TEXT"
  | .binary => "BLOB"

def identityClause (k : SizedKind) : Except DdlError String :=
  match k.kind with
  | .int32 | .int64 => .ok "INTEGER"
  | _ => .error (.unsupported .identityColumn name)

/-- A literal; dates and times are texts. -/
def literal : Literal → Except DdlError String
  | .bool b => .ok (if b then "1" else "0")
  | .date d => .ok (Text.stringLiteral d.iso)
  | .dateTime m => .ok (Text.stringLiteral (m.text " " .asNeeded))
  | .time t => .ok (Text.stringLiteral (t.text .asNeeded))
  | .binary bytes => .ok ("X'" ++ Text.hexUpper bytes ++ "'")
  | l => l.commonOrUnmapped name

/-- The expression of a sentinel; there is none for identifiers. -/
def sentinel : Sentinel → Except DdlError String
  | .currentDateTime => .ok "(datetime('now', 'localtime'))"
  | .currentUtcDateTime => .ok "CURRENT_TIMESTAMP"
  | .newGuid => .error (.unknownSentinel .newGuid name)

def vocabulary : Vocabulary where
  name := name
  maxIdentifierLength := 128
  typeClause k := .ok (typeClause k)
  identityClause := identityClause
  literal := literal
  sentinel := sentinel

/-- Refuses the first identity column unless it is in the primary key and the key has one column. -/
def checkIdentityColumns (table : String) (columns : List TableColumn) : Except DdlError Unit :=
  match columns.find? (·.identity) with
  | some c =>
    if c.primaryKey && columns.countP (·.primaryKey) == 1 then .ok ()
    else .error (.precondition (.identityNotSoleKey table c.name))
  | none => .ok ()

def refuse {α : Type} (operation : Operation) : Except DdlError α :=
  .error (.unsupported operation name)

def dialect : Dialect where
  toVocabulary := vocabulary
  checkIdentityColumns := checkIdentityColumns
  dropDefaultStatement _ _ _ := refuse .dropDefault
  modifyColumnStatement _ _ := refuse .alterColumn
  addDefaultStatement _ _ := refuse .addDefault
  alterColumn _ _ := refuse .alterColumn
  addConstraint _ _ _ constraint := refuse constraint.operation
  addForeignKey _ _ _ _ := refuse .addForeignKey
  dropUniqueConstraint _ _ := refuse .dropUniqueConstraint
  dropForeignKey _ _ := refuse .dropForeignKey
  dropPrimaryKey _ _ := refuse .dropPrimaryKey
  renamePrimaryKey _ _ _ := refuse .renamePrimaryKey
  existsTable _database table :=
    "SELECT COUNT(*) FROM sqlite_master WHERE type = 'table' AND name = " ++
      Text.stringLiteral table

end SchemaDdl.Sqlite
