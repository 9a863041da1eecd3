import SchemaDdl.Schema.Column

/-!
# Schema changes

A `Change` is one step of a migration, such as creating a table or dropping an index. Names of
constraints and indexes may be left out and are then derived from the table and its columns.
-/

namespace SchemaDdl

/-- What a dialect may be asked to do, as messages name it. -/
inductive Operation where
  | createTable
  | dropTable
  | renameTable
  | addColumn
  | dropColumn
  | renameColumn
  | alterColumn
  | dropDefault
  | addPrimaryKey
  | renamePrimaryKey
  | dropPrimaryKey
  | addUniqueConstraint
  | dropUniqueConstraint
  | addForeignKey
  | dropForeignKey
  | addIndex
  | dropIndex
  /-- Having the server assign the values of a column. -/
  | identityColumn
  | addDefault
  /-- What is said where there is no change to name. -/
  | unknown
deriving DecidableEq, Repr

namespace Operation

/-- What messages call the operation. -/
def label : Operation → String
  | createTable => "create table"
  | dropTable => "drop table"
  | renameTable => "rename table"
  | addColumn => "add column"
  | dropColumn => "drop column"
  | renameColumn => "rename column"
  | alterColumn => "alter column"
  | dropDefault => "drop default"
  | addPrimaryKey => "add primary key"
  | renamePrimaryKey => "rename primary key"
  | dropPrimaryKey => "drop primary key"
  | addUniqueConstraint => "add unique constraint"
  | dropUniqueConstraint => "drop unique constraint"
  | addForeignKey => "add foreign key"
  | dropForeignKey => "drop foreign key"
  | addIndex => "add index"
  | dropIndex => "drop index"
  | identityColumn => "identity column"
  | addDefault => "add default"
  | unknown => "unknown"

end Operation

inductive Change where
  | createTable (table : String) (columns : List TableColumn) (primaryKeyName : Option String)
  | dropTable (table : String)
  | renameTable (oldName newName : String)
  | addColumn (table : String) (column : Column)
  | dropColumn (table column : String)
  | renameColumn (table oldName newName : String)
  /-- Replaces type, nullability and default of a column. -/
  | alterColumn (table : String) (column : Column)
  /-- Drops the default of a column, which is given as it is afterwards. -/
  | dropDefault (table : String) (column : Column)
  | addPrimaryKey (table : String) (columns : List String) (name : Option String)
  | renamePrimaryKey (table oldName newName : String)
  | dropPrimaryKey (table name : String)
  | addUniqueConstraint (table : String) (columns : List String) (name : Option String)
  | dropUniqueConstraint (table name : String)
  | addForeignKey (table referencedTable : String) (references : List KeyReference)
      (name : Option String)
  | dropForeignKey (table name : String)
  | addIndex (table : String) (columns : List String) (name : Option String)
  | dropIndex (table name : String)
deriving DecidableEq, Repr

namespace Change

def operation : Change → Operation
  | createTable .. => .createTable
  | dropTable .. => .dropTable
  | renameTable .. => .renameTable
  | addColumn .. => .addColumn
  | dropColumn .. => .dropColumn
  | renameColumn .. => .renameColumn
  | alterColumn .. => .alterColumn
  | dropDefault .. => .dropDefault
  | addPrimaryKey .. => .addPrimaryKey
  | renamePrimaryKey .. => .renamePrimaryKey
  | dropPrimaryKey .. => .dropPrimaryKey
  | addUniqueConstraint .. => .addUniqueConstraint
  | dropUniqueConstraint .. => .dropUniqueConstraint
  | addForeignKey .. => .addForeignKey
  | dropForeignKey .. => .dropForeignKey
  | addIndex .. => .addIndex
  | dropIndex .. => .dropIndex

/-- The table that the change applies to, by its name before the change. -/
def table : Change → String
  | renameTable oldName _ => oldName
  | createTable table .. | dropTable table | addColumn table _ | dropColumn table _
  | renameColumn table .. | alterColumn table _ | dropDefault table _ | addPrimaryKey table ..
  | renamePrimaryKey table .. | dropPrimaryKey table _ | addUniqueConstraint table ..
  | dropUniqueConstraint table _ | addForeignKey table .. | dropForeignKey table _
  | addIndex table .. | dropIndex table _ => table

end Change

end SchemaDdl
