import SchemaDdl.Dialect.Basic

/-!
# Rendering

Renders changes as statements of a dialect, one change or a batch in order. A batch stops at the
first change that fails and keeps the statements of the changes before it.
-/

namespace SchemaDdl

namespace Change

/-- The statements of a change, in the order in which they must run. Names that the change leaves
out are derived; that of a primary key does not depend on its columns. -/
def render (d : Dialect) : Change → Except DdlError (List String)
  | createTable table columns primaryKeyName =>
    d.createTable table columns (primaryKeyName.getD (d.objectName .primaryKey table []))
  | dropTable table => d.dropTable table
  | renameTable oldName newName => d.renameTable oldName newName
  | addColumn table column => d.addColumn table column
  | dropColumn table column => d.dropColumn table column
  | renameColumn table oldName newName => d.renameColumn table oldName newName
  | alterColumn table column => d.alterColumn table column
  | dropDefault table column => d.dropDefault table column
  | addPrimaryKey table columns name =>
    d.addPrimaryKey table columns (name.getD (d.objectName .primaryKey table []))
  | renamePrimaryKey table oldName newName => d.renamePrimaryKey table oldName newName
  | dropPrimaryKey table name => d.dropPrimaryKey table name
  | addUniqueConstraint table columns name =>
    d.addUniqueConstraint table columns (name.getD (d.objectName .unique table columns))
  | dropUniqueConstraint table name => d.dropUniqueConstraint table name
  | addForeignKey table referencedTable references name =>
    d.addForeignKey table referencedTable references
      (name.getD (d.objectName .foreignKey table (references.map (·.column))))
  | dropForeignKey table name => d.dropForeignKey table name
  | addIndex table columns name =>
    d.addIndex table columns (name.getD (d.objectName .index table columns))
  | dropIndex table name => d.dropIndex table name

end Change

/-- Why a batch stops. -/
structure RenderFailure where
  /-- The position of the change that fails, from zero. -/
  index : Nat
  cause : DdlError
deriving DecidableEq, Repr

namespace RenderFailure

/-- The failure with one more change in front of it. -/
def shift (f : RenderFailure) : RenderFailure := { f with index := f.index + 1 }

end RenderFailure

structure Rendered where
  /-- The statements of the changes before any failure. -/
  statements : List String
  failure : Option RenderFailure
deriving DecidableEq, Repr

namespace Rendered

def isComplete (r : Rendered) : Bool := r.failure.isNone

end Rendered

/-- Renders changes in order, up to the first that fails. -/
def renderChanges (d : Dialect) : List Change → Rendered
  | [] => ⟨[], none⟩
  | change :: rest =>
    match change.render d with
    | .error cause => ⟨[], some ⟨0, cause⟩⟩
    | .ok statements =>
      let later := renderChanges d rest
      ⟨statements ++ later.statements, later.failure.map (·.shift)⟩

end SchemaDdl
