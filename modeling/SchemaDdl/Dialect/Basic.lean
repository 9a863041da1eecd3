import SchemaDdl.Dialect.Standard

/-!
# Dialects

A `Dialect` is a vocabulary together with the statements for every operation. An operation has a
standard form unless there is none that dialects share, and a dialect may replace that form by its
own; forms that are built from other operations follow these. Every operation gives its statements
in the order in which they must run.
-/

namespace SchemaDdl

/-- A dialect of the data definition language. -/
structure Dialect extends Vocabulary where
  /-- Refuses identity columns that a new table cannot have. -/
  checkIdentityColumns : (table : String) → List TableColumn → Except DdlError Unit :=
    fun _ _ => .ok ()
  createTable : (table : String) → List TableColumn → (primaryKeyName : String) →
      Except DdlError (List String) :=
    Standard.createTable toVocabulary checkIdentityColumns
  dropTable : (table : String) → Except DdlError (List String) :=
    Standard.dropTable toVocabulary
  addColumn : (table : String) → Column → Except DdlError (List String) :=
    Standard.addColumn toVocabulary
  dropColumn : (table column : String) → Except DdlError (List String) :=
    Standard.dropColumn toVocabulary
  /-- Drops the default of a column. A guarded statement also succeeds where there is none. -/
  dropDefaultStatement : (table : String) → Column → (guarded : Bool) → Except DdlError String
  modifyColumnStatement : (table : String) → Column → Except DdlError String
  /-- Adds the default of a column, which must have one. -/
  addDefaultStatement : (table : String) → Column → Except DdlError String
  /-- Drops any earlier default, changes type and nullability, and adds the new default if there is
  one. -/
  alterColumn : (table : String) → Column → Except DdlError (List String) :=
    fun table column => do
      let dropped ← dropDefaultStatement table column true
      let modified ← modifyColumnStatement table column
      if column.default.isSome then
        return [dropped, modified, ← addDefaultStatement table column]
      else
        return [dropped, modified]
  dropDefault : (table : String) → Column → Except DdlError (List String) :=
    Standard.dropDefault dropDefaultStatement
  addConstraint : (table name : String) → (columns : List String) → ConstraintKind →
      Except DdlError (List String) :=
    Standard.addConstraint toVocabulary
  addPrimaryKey : (table : String) → (columns : List String) → (name : String) →
      Except DdlError (List String) :=
    fun table columns name => addConstraint table name columns .primaryKey
  addUniqueConstraint : (table : String) → (columns : List String) → (name : String) →
      Except DdlError (List String) :=
    fun table columns name => addConstraint table name columns .unique
  addForeignKey : (table referencedTable : String) → List KeyReference → (name : String) →
      Except DdlError (List String) :=
    Standard.addForeignKey toVocabulary
  addIndex : (table : String) → (columns : List String) → (name : String) →
      Except DdlError (List String) :=
    Standard.addIndex toVocabulary
  dropIndex : (table name : String) → Except DdlError (List String) :=
    Standard.dropIndex toVocabulary
  dropConstraint : (table name : String) → Except DdlError (List String) :=
    Standard.dropConstraint toVocabulary
  dropUniqueConstraint : (table name : String) → Except DdlError (List String) := dropConstraint
  dropForeignKey : (table name : String) → Except DdlError (List String) := dropConstraint
  dropPrimaryKey : (table name : String) → Except DdlError (List String) := dropConstraint
  renameTable : (oldName newName : String) → Except DdlError (List String) :=
    Standard.renameTable toVocabulary
  renameColumn : (table oldName newName : String) → Except DdlError (List String) :=
    Standard.renameColumn toVocabulary
  renamePrimaryKey : (table oldName newName : String) → Except DdlError (List String) :=
    Standard.renamePrimaryKey toVocabulary
  /-- The query for the number of tables of a name in a database. -/
  existsTable : (database table : String) → String

end SchemaDdl
