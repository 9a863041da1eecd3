import SchemaDdl.Capability
import SchemaDdl.Dialect.Basic

/-!
# PostgreSQL

Types, nullability and defaults of a column are altered by separate actions. Dropping a default that
is not there is no error, so a guarded drop needs no guard.
-/

namespace SchemaDdl.Postgresql

def name : String := "postgresql"

def capabilities : CapabilityTable where
  dialect := name
  entries := [
    ((Capability.of .ansiString).upToSize 10485760).forPrimaryKey,
    .of .ansiString,
    ((Capability.of .ansiStringFixedLength).upToSize 10485760).forPrimaryKey,
    .of .binary,
    (Capability.of .boolean).forPrimaryKey,
    (Capability.of .byte).forPrimaryKey,
    (Capability.of .currency).forPrimaryKey,
    (Capability.of .date).forPrimaryKey,
    (Capability.of .dateTime).forPrimaryKey,
    (Capability.of .dateTime2).forPrimaryKey,
    (Capability.of .dateTimeOffset).forPrimaryKey,
    (((Capability.of .decimal).upToSize 28).upToScale 28).forPrimaryKey,
    ((Capability.of .decimal).upToSize 28).forPrimaryKey,
    (Capability.of .double).forPrimaryKey,
    (Capability.of .guid).forPrimaryKey,
    (Capability.of .int16).forIdentity,
    (Capability.of .int32).forIdentity,
    (Capability.of .int64).forIdentity,
    (Capability.of .single).forPrimaryKey,
    ((Capability.of .string).upToSize 10485760).forPrimaryKey,
    .of .string,
    ((Capability.of .stringFixedLength).upToSize 10485760).forPrimaryKey,
    (Capability.of .time).forPrimaryKey,
    .of .xml]

def typeClause (k : SizedKind) : Except DdlError String :=
  match k.kind with
  | .ansiString | .string =>
    .ok (match k.positiveSize with
      | some n => s!"VARCHAR({n})"
      | none => "TEXT")
  | .ansiStringFixedLength | .stringFixedLength => .ok (k.sizedClause "CHAR")
  | .binary => .ok "BYTEA"
  | .boolean => .ok "BOOLEAN"
  | .byte | .int16 => .ok "SMALLINT"
  | .currency => .ok "MONEY"
  | .date => .ok "DATE"
  | .dateTime | .dateTime2 => .ok "TIMESTAMP"
  | .dateTimeOffset => .ok "TIMESTAMPTZ"
  | .decimal | .varNumeric => .ok (k.decimalClause "NUMERIC")
  | .double => .ok "DOUBLE PRECISION"
  | .guid => .ok "UUID"
  | .int32 => .ok "INTEGER"
  | .int64 => .ok "BIGINT"
  | .single => .ok "REAL"
  | .time => .ok "TIME"
  | .xml => .ok "XML"
  | .sByte | .uInt16 | .uInt32 | .uInt64 => .error (.unmappedKind k.kind name)

def identityClause (k : SizedKind) : Except DdlError String :=
  match k.kind with
  | .int16 | .int32 | .int64 => do
    return (← typeClause k) ++ " GENERATED BY DEFAULT AS IDENTITY"
  | _ => .error (.unsupported .identityColumn name)

/-- A literal; dates and times have keywords of their own, and bytes are cast. -/
def literal : Literal → Except DdlError String
  | .bool b => .ok (if b then "TRUE" else "FALSE")
  | .date d => .ok ("DATE '" ++ d.iso ++ "'")
  | .dateTime m => .ok ("TIMESTAMP '" ++ m.text " " .asNeeded ++ "'")
  | .time t => .ok ("TIME '" ++ t.text .asNeeded ++ "'")
  | .binary bytes => .ok ("'\\x" ++ Text.hexUpper bytes ++ "'::bytea")
  | l => l.commonOrUnmapped name

def sentinel : Sentinel → Except DdlError String
  | .currentDateTime => .ok "CURRENT_TIMESTAMP"
  | .currentUtcDateTime => .ok "(CURRENT_TIMESTAMP AT TIME ZONE 'UTC')"
  | .newGuid => .ok "gen_random_uuid()"

def vocabulary : Vocabulary where
  name := name
  maxIdentifierLength := 63
  typeClause := typeClause
  identityClause := identityClause
  literal := literal
  sentinel := sentinel

/-- An action on a column, without the table. -/
def columnAction (column action : String) : String :=
  "ALTER COLUMN " ++ vocabulary.quoteName column ++ " " ++ action

/-- A statement of one action on a column. -/
def alterColumnAction (table column action : String) : String :=
  vocabulary.alterTable table ++ " " ++ columnAction column action

def dialect : Dialect where
  toVocabulary := vocabulary
  dropDefaultStatement table column _guarded :=
    .ok (alterColumnAction table column.name "DROP DEFAULT")
  modifyColumnStatement table column := do
    let type ← typeClause column.kind
    return alterColumnAction table column.name ("TYPE " ++ type) ++ ", " ++
      columnAction column.name (if column.nullable then "DROP NOT NULL" else "SET NOT NULL")
  addDefaultStatement table column := do
    let expression ← vocabulary.requiredDefault table column
    return alterColumnAction table column.name ("SET DEFAULT " ++ expression)
  existsTable database table :=
    "SELECT COUNT(*) FROM information_schema.tables WHERE table_catalog = " ++
      Text.stringLiteral database ++ " AND table_name = " ++ Text.stringLiteral table

end SchemaDdl.Postgresql
