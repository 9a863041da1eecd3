import SchemaDdl.Dialect.Vocabulary

/-!
# Standard statements

The statements that a dialect uses unless it has a form of its own.
-/

namespace SchemaDdl

/-- A constraint over columns of one table. -/
inductive ConstraintKind where
  | primaryKey
  | unique
deriving DecidableEq, Repr

namespace ConstraintKind

def keyword : ConstraintKind → String
  | primaryKey => "PRIMARY KEY"
  | unique => "UNIQUE"

def operation : ConstraintKind → Operation
  | primaryKey => .addPrimaryKey
  | unique => .addUniqueConstraint

end ConstraintKind

/-- Refuses an empty list of columns. -/
def requireColumns (operation : Operation) (table : String) (columns : List String) :
    Except DdlError Unit :=
  if columns.isEmpty then .error (.precondition (.columnsNeeded operation table)) else .ok ()

/-- Unique constraints of a new table: labels with their columns, in order of first appearance. -/
abbrev UniqueGroups := List (String × List String)

namespace UniqueGroups

/-- Adds a column to the constraint of a label, which becomes the last one if it is new. -/
def insert (label column : String) : UniqueGroups → UniqueGroups
  | [] => [(label, [column])]
  | (l, columns) :: rest =>
    if l = label then (l, columns ++ [column]) :: rest
    else (l, columns) :: insert label column rest

/-- The constraints of the columns of a table; an empty label belongs to none. -/
def ofColumns (columns : List TableColumn) : UniqueGroups :=
  columns.foldl
    (fun groups c =>
      if c.uniqueGroup.isEmpty then groups else insert c.uniqueGroup c.name groups) []

end UniqueGroups

namespace Standard

/-- Creates a table, unless its identity columns are refused: the column definitions in order, the
primary key if a column is in it, and the unique constraints. -/
def createTable (v : Vocabulary)
    (checkIdentityColumns : String → List TableColumn → Except DdlError Unit) (table : String)
    (columns : List TableColumn) (primaryKeyName : String) : Except DdlError (List String) := do
  checkIdentityColumns table columns
  let definitions ← columns.mapM fun c => v.columnDefinition table c.defined c.identity
  let keys := (columns.filter (·.primaryKey)).map (·.name)
  let primaryKey := if keys.isEmpty then [] else [v.primaryKeyClause primaryKeyName keys]
  let uniques := (UniqueGroups.ofColumns columns).map fun group => v.uniqueClause group.2
  let lines := (definitions ++ primaryKey ++ uniques).map ("    " ++ ·)
  return ["CREATE TABLE " ++ v.quoteName table ++ " (\n" ++ ",\n".intercalate lines ++ "\n)"]

def dropTable (v : Vocabulary) (table : String) : Except DdlError (List String) :=
  .ok ["DROP TABLE " ++ v.quoteName table]

def addColumn (v : Vocabulary) (table : String) (column : Column) :
    Except DdlError (List String) := do
  return [v.alterTable table ++ " ADD COLUMN " ++ (← v.columnDefinition table column false)]

def dropColumn (v : Vocabulary) (table column : String) : Except DdlError (List String) :=
  .ok [v.alterTable table ++ " DROP COLUMN " ++ v.quoteName column]

/-- Drops the default of a column; the column after the change must have none. -/
def dropDefault (dropDefaultStatement : String → Column → Bool → Except DdlError String)
    (table : String) (column : Column) : Except DdlError (List String) := do
  if column.default.isSome then
    throw (.precondition (.defaultRemains table column.name))
  return [← dropDefaultStatement table column false]

theorem dropDefault_eq_ite (dropDefaultStatement : String → Column → Bool → Except DdlError String)
    (table : String) (column : Column) :
    dropDefault dropDefaultStatement table column =
      if column.default.isSome then .error (.precondition (.defaultRemains table column.name))
      else dropDefaultStatement table column false >>= fun dropped => .ok [dropped] := by
  unfold dropDefault
  split <;> rfl

def addConstraint (v : Vocabulary) (table name : String) (columns : List String)
    (constraint : ConstraintKind) : Except DdlError (List String) := do
  requireColumns constraint.operation table columns
  return [v.alterTable table ++ " ADD CONSTRAINT " ++ v.quoteName name ++ " " ++
    constraint.keyword ++ " (" ++ v.quoteList columns ++ ")"]

def addForeignKey (v : Vocabulary) (table referencedTable : String)
    (references : List KeyReference) (name : String) : Except DdlError (List String) := do
  let columns := references.map (·.column)
  requireColumns .addForeignKey table columns
  return [v.alterTable table ++ " ADD CONSTRAINT " ++ v.quoteName name ++ " FOREIGN KEY (" ++
    v.quoteList columns ++ ") REFERENCES " ++ v.quoteName referencedTable ++ " (" ++
    v.quoteList (references.map (·.referencedColumn)) ++ ")"]

def addIndex (v : Vocabulary) (table : String) (columns : List String) (name : String) :
    Except DdlError (List String) := do
  requireColumns .addIndex table columns
  return ["CREATE INDEX " ++ v.quoteName name ++ " ON " ++ v.quoteName table ++ " (" ++
    v.quoteList columns ++ ")"]

def dropIndex (v : Vocabulary) (_table name : String) : Except DdlError (List String) :=
  .ok ["DROP INDEX " ++ v.quoteName name]

def dropConstraint (v : Vocabulary) (table name : String) : Except DdlError (List String) :=
  .ok [v.alterTable table ++ " DROP CONSTRAINT " ++ v.quoteName name]

def renameTable (v : Vocabulary) (oldName newName : String) : Except DdlError (List String) :=
  .ok [v.alterTable oldName ++ " RENAME TO " ++ v.quoteName newName]

def renameColumn (v : Vocabulary) (table oldName newName : String) :
    Except DdlError (List String) :=
  .ok [v.alterTable table ++ " RENAME COLUMN " ++ v.quoteName oldName ++ " TO " ++
    v.quoteName newName]

def renamePrimaryKey (v : Vocabulary) (table oldName newName : String) :
    Except DdlError (List String) :=
  .ok [v.alterTable table ++ " RENAME CONSTRAINT " ++ v.quoteName oldName ++ " TO " ++
    v.quoteName newName]

end Standard

end SchemaDdl
