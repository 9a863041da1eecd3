import SchemaDdl.Schema.Kind
import SchemaDdl.Schema.Literal

/-!
# Columns

A `Column` is what adding or altering a column needs to know; a `TableColumn` adds its roles in a
new table. A `KeyReference` pairs a column of a foreign key with the column it refers to.
-/

namespace SchemaDdl

structure Column where
  name : String
  kind : SizedKind
  nullable : Bool := true
  default : ColumnDefault := .none
deriving DecidableEq, Repr

namespace Column

def withoutDefault (c : Column) : Column := { c with default := .none }

def notNull (c : Column) : Column := { c with nullable := false }

def orNull (c : Column) : Column := { c with nullable := true }

/-- The column with a default in place of any it had. -/
def withDefault (c : Column) (default : ColumnDefault) : Column := { c with default := default }

end Column

/-- A column of a new table, with its roles there. -/
structure TableColumn where
  column : Column
  primaryKey : Bool := false
  /-- Label of the unique constraint that the column belongs to, empty for none. -/
  uniqueGroup : String := ""
  /-- Whether the server assigns the values. -/
  identity : Bool := false
deriving DecidableEq, Repr

namespace TableColumn

def name (c : TableColumn) : String := c.column.name

def inPrimaryKey (c : TableColumn) : TableColumn := { c with primaryKey := true }

/-- The column in the unique constraint of a label. -/
def uniqueIn (c : TableColumn) (group : String) : TableColumn := { c with uniqueGroup := group }

def asIdentity (c : TableColumn) : TableColumn := { c with identity := true }

/-- The column as a new table defines it: never nullable in the primary key. -/
def defined (c : TableColumn) : Column :=
  { c.column with nullable := c.column.nullable && !c.primaryKey }

end TableColumn

/-- A column of a foreign key and the column of the other table that it refers to. -/
structure KeyReference where
  column : String
  referencedColumn : String
deriving DecidableEq, Repr

end SchemaDdl
