import SchemaDdl.Capability
import SchemaDdl.Dialect.Basic

/-!
# Informix

A default is part of the definition of its column and has no name: it is added, replaced and dropped
by modifying the column. Dropping a default and changing the type are therefore one statement, which
altering a column runs twice; the second run changes nothing. The name of a constraint stands behind
its body.
-/

namespace SchemaDdl.Informix

def name : String := "informix"

def capabilities : CapabilityTable where
  dialect := name
  entries := [
    .of .binary,
    (Capability.of .byte).forPrimaryKey,
    (Capability.of .boolean).forPrimaryKey,
    (Capability.of .date).forPrimaryKey,
    (Capability.of .dateTime).forPrimaryKey,
    (((Capability.of .decimal).upToSize 28).upToScale 28).forPrimaryKey,
    ((Capability.of .decimal).upToSize 28).forPrimaryKey,
    .of .double,
    (Capability.of .guid).forPrimaryKey,
    (Capability.of .int16).forPrimaryKey,
    (Capability.of .int32).forIdentity,
    (Capability.of .int64).forIdentity,
    (Capability.of .single).forPrimaryKey.withWarning
      "Single maps to SMALLFLOAT; values may lose precision in arithmetic.",
    ((Capability.of .string).upToSize 65535).forPrimaryKey,
    .of .string,
    .of .time,
    .of .uInt16,
    .of .uInt32,
    .of .uInt64,
    ((Capability.of .stringFixedLength).upToSize 255).forPrimaryKey]

/-- The type of a text: `NVARCHAR` below 255, `LVARCHAR` below 10000, else `TEXT`. -/
def textClause (k : SizedKind) : String :=
  match k.positiveSize with
  | some n =>
    if n < 255 then s!"NVARCHAR({n})" else if n < 10000 then s!"LVARCHAR({n})" else "TEXT"
  | none => "TEXT"

def typeClause (k : SizedKind) : Except DdlError String :=
  match k.kind with
  | .binary => .ok "BLOB"
  | .boolean => .ok "BOOLEAN"
  | .byte | .sByte | .int16 => .ok "SMALLINT"
  | .date => .ok "DATE"
  | .dateTime => .ok "DATETIME YEAR TO FRACTION(5)"
  | .decimal => .ok (k.decimalClause "DECIMAL")
  | .double => .ok "FLOAT"
  | .guid => .ok "CHAR(36)"
  | .int32 | .uInt16 => .ok "INTEGER"
  | .int64 | .uInt32 => .ok "BIGINT"
  | .single => .ok "SMALLFLOAT"
  | .string => .ok (textClause k)
  | .stringFixedLength => .ok (k.sizedClause "NCHAR")
  | .time => .ok "DATETIME HOUR TO FRACTION(5)"
  | .uInt64 => .ok "DECIMAL(20, 0)"
  | .varNumeric => .ok (k.decimalClause "NUMERIC")
  | .ansiString | .ansiStringFixedLength | .currency | .dateTime2 | .dateTimeOffset | .xml =>
    .error (.unmappedKind k.kind name)

def identityClause (k : SizedKind) : Except DdlError String :=
  match k.kind with
  | .int32 => .ok "SERIAL"
  | .int64 => .ok "BIGSERIAL"
  | _ => .error (.unsupported .identityColumn name)

/-- A literal, with five digits of a fraction; there is none for bytes. -/
def literal : Literal → Except DdlError String
  | .bool b => .ok (if b then "'t'" else "'f'")
  | .date d => .ok ("DATETIME (" ++ d.iso ++ ") YEAR TO DAY")
  | .dateTime m => .ok ("DATETIME (" ++ m.text " " (.places 5) ++ ") YEAR TO FRACTION(5)")
  | .time t => .ok ("DATETIME (" ++ t.text (.places 5) ++ ") HOUR TO FRACTION(5)")
  | l => l.commonOrUnmapped name

/-- The expression of a sentinel; only the local date and time has one. -/
def sentinel : Sentinel → Except DdlError String
  | .currentDateTime => .ok "CURRENT YEAR TO FRACTION(5)"
  | s => .error (.unknownSentinel s name)

def spelling : Spelling where
  name := name
  maxIdentifierLength := 128
  typeClause := typeClause
  identityClause := identityClause
  literal := literal
  sentinel := sentinel

/-- The primary key of a new table, with the name of the constraint behind its body. -/
def primaryKeyClause (name : String) (columns : List String) : String :=
  let clause := "PRIMARY KEY (" ++ spelling.quoteList columns ++ ")"
  if name.isEmpty then clause else clause ++ " CONSTRAINT " ++ spelling.quoteName name

def vocabulary : Vocabulary where
  toSpelling := spelling
  primaryKeyClause := primaryKeyClause

/-- Declares a column anew. -/
def modify (table definition : String) : String :=
  vocabulary.alterTable table ++ " MODIFY (" ++ definition ++ ")"

/-- Declares a column anew without its default. -/
def modifyWithoutDefault (table : String) (column : Column) : Except DdlError String := do
  return modify table (← vocabulary.columnDefinition table column.withoutDefault false)

def dialect : Dialect where
  toVocabulary := vocabulary
  addColumn table column := do
    return [vocabulary.alterTable table ++ " ADD (" ++
      (← vocabulary.columnDefinition table column false) ++ ")"]
  dropColumn table column :=
    .ok [vocabulary.alterTable table ++ " DROP " ++ vocabulary.quoteName column]
  dropDefaultStatement table column _guarded := modifyWithoutDefault table column
  modifyColumnStatement := modifyWithoutDefault
  addDefaultStatement table column := do
    let _ ← vocabulary.requiredDefault table column
    return modify table (← vocabulary.columnDefinition table column false)
  addConstraint table name columns constraint := do
    requireColumns constraint.operation table columns
    return [vocabulary.alterTable table ++ " ADD CONSTRAINT " ++ constraint.keyword ++ " (" ++
      vocabulary.quoteList columns ++ ") CONSTRAINT " ++ vocabulary.quoteName name]
  addForeignKey table referencedTable references name := do
    let columns := references.map (·.column)
    requireColumns .addForeignKey table columns
    return [vocabulary.alterTable table ++ " ADD CONSTRAINT FOREIGN KEY (" ++
      vocabulary.quoteList columns ++ ") REFERENCES " ++ vocabulary.quoteName referencedTable ++
      " (" ++ vocabulary.quoteList (references.map (·.referencedColumn)) ++ ") CONSTRAINT " ++
      vocabulary.quoteName name]
  renameTable oldName newName :=
    .ok ["RENAME TABLE " ++ vocabulary.quoteName oldName ++ " TO " ++ vocabulary.quoteName newName]
  renameColumn table oldName newName :=
    .ok ["RENAME COLUMN " ++ vocabulary.quoteName table ++ "." ++ vocabulary.quoteName oldName ++
      " TO " ++ vocabulary.quoteName newName]
  renamePrimaryKey _ _ _ := .error (.unsupported .renamePrimaryKey name)
  existsTable _database table :=
    "SELECT COUNT(*) FROM systables WHERE tabname = " ++ Text.stringLiteral table

end SchemaDdl.Informix
