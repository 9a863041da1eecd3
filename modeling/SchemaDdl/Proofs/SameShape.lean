import Mathlib.Data.List.Forall2
import SchemaDdl.Dialect.Vocabulary

/-!
# Changes of the same shape

Two changes have the same shape if they differ in nothing but the content of names and of text
defaults. The names that a change may put into its statements are its own, `Change.names`, and those
that are derived from them, `Change.derivedNames`.
-/

namespace SchemaDdl

/-- The same literal, up to the content of a text. -/
inductive Literal.SameShape : Literal → Literal → Prop
  | text (s s' : String) : SameShape (.text s) (.text s')
  | refl (l : Literal) : SameShape l l

/-- The same default, up to the content of a text. -/
inductive ColumnDefault.SameShape : ColumnDefault → ColumnDefault → Prop
  | none : SameShape .none .none
  | literal {l l' : Literal} (h : l.SameShape l') : SameShape (.literal l) (.literal l')
  | sentinel (s : Sentinel) : SameShape (.sentinel s) (.sentinel s)

structure Column.SameShape (c c' : Column) : Prop where
  kind : c.kind = c'.kind
  nullable : c.nullable = c'.nullable
  default : c.default.SameShape c'.default

structure TableColumn.SameShape (c c' : TableColumn) : Prop where
  column : c.column.SameShape c'.column
  primaryKey : c.primaryKey = c'.primaryKey
  uniqueGroup : c.uniqueGroup = c'.uniqueGroup
  identity : c.identity = c'.identity

namespace Change

/-- The same change, up to the content of names and of text defaults. Lists keep their length and
optional names their presence; the name of a new table's primary key stays empty or not. -/
inductive SameShape : Change → Change → Prop
  | createTable (t t' : String) {cs cs' : List TableColumn} {n n' : Option String}
      (columns : List.Forall₂ TableColumn.SameShape cs cs')
      (name : n.map String.isEmpty = n'.map String.isEmpty) :
      SameShape (.createTable t cs n) (.createTable t' cs' n')
  | dropTable (t t' : String) : SameShape (.dropTable t) (.dropTable t')
  | renameTable (o n o' n' : String) : SameShape (.renameTable o n) (.renameTable o' n')
  | addColumn (t t' : String) {c c' : Column} (column : c.SameShape c') :
      SameShape (.addColumn t c) (.addColumn t' c')
  | dropColumn (t c t' c' : String) : SameShape (.dropColumn t c) (.dropColumn t' c')
  | renameColumn (t o n t' o' n' : String) :
      SameShape (.renameColumn t o n) (.renameColumn t' o' n')
  | alterColumn (t t' : String) {c c' : Column} (column : c.SameShape c') :
      SameShape (.alterColumn t c) (.alterColumn t' c')
  | dropDefault (t t' : String) {c c' : Column} (column : c.SameShape c') :
      SameShape (.dropDefault t c) (.dropDefault t' c')
  | addPrimaryKey (t t' : String) {cs cs' : List String} {n n' : Option String}
      (columns : cs.length = cs'.length) (name : n.isSome = n'.isSome) :
      SameShape (.addPrimaryKey t cs n) (.addPrimaryKey t' cs' n')
  | renamePrimaryKey (t o n t' o' n' : String) :
      SameShape (.renamePrimaryKey t o n) (.renamePrimaryKey t' o' n')
  | dropPrimaryKey (t n t' n' : String) : SameShape (.dropPrimaryKey t n) (.dropPrimaryKey t' n')
  | addUniqueConstraint (t t' : String) {cs cs' : List String} {n n' : Option String}
      (columns : cs.length = cs'.length) (name : n.isSome = n'.isSome) :
      SameShape (.addUniqueConstraint t cs n) (.addUniqueConstraint t' cs' n')
  | dropUniqueConstraint (t n t' n' : String) :
      SameShape (.dropUniqueConstraint t n) (.dropUniqueConstraint t' n')
  | addForeignKey (t r t' r' : String) {ks ks' : List KeyReference} {n n' : Option String}
      (references : ks.length = ks'.length) (name : n.isSome = n'.isSome) :
      SameShape (.addForeignKey t r ks n) (.addForeignKey t' r' ks' n')
  | dropForeignKey (t n t' n' : String) : SameShape (.dropForeignKey t n) (.dropForeignKey t' n')
  | addIndex (t t' : String) {cs cs' : List String} {n n' : Option String}
      (columns : cs.length = cs'.length) (name : n.isSome = n'.isSome) :
      SameShape (.addIndex t cs n) (.addIndex t' cs' n')
  | dropIndex (t n t' n' : String) : SameShape (.dropIndex t n) (.dropIndex t' n')

/-- The names of tables, columns, constraints and indexes that a change gives. -/
def names : Change → List String
  | createTable table columns name => table :: (columns.map (·.name) ++ name.toList)
  | dropTable table => [table]
  | renameTable oldName newName => [oldName, newName]
  | addColumn table column | alterColumn table column | dropDefault table column =>
    [table, column.name]
  | dropColumn table column => [table, column]
  | renameColumn table oldName newName | renamePrimaryKey table oldName newName =>
    [table, oldName, newName]
  | addPrimaryKey table columns name | addUniqueConstraint table columns name
  | addIndex table columns name => table :: (columns ++ name.toList)
  | addForeignKey table referenced references name =>
    table :: referenced ::
      (references.map (·.column) ++ references.map (·.referencedColumn) ++ name.toList)
  | dropPrimaryKey table name | dropUniqueConstraint table name | dropForeignKey table name
  | dropIndex table name => [table, name]

/-- The names that are derived from those of a change. -/
def derivedNames (v : Vocabulary) : Change → List String
  | createTable table columns _ =>
    v.objectName .primaryKey table [] :: columns.map fun c => v.defaultConstraintName table c.name
  | addColumn table column | alterColumn table column | dropDefault table column =>
    [v.defaultConstraintName table column.name]
  | addPrimaryKey table _ _ => [v.objectName .primaryKey table []]
  | addUniqueConstraint table columns _ => [v.objectName .unique table columns]
  | addForeignKey table _ references _ =>
    [v.objectName .foreignKey table (references.map (·.column))]
  | addIndex table columns _ => [v.objectName .index table columns]
  | _ => []

end Change

/-! ## Every change has its own shape -/

theorem ColumnDefault.SameShape.refl (d : ColumnDefault) : d.SameShape d := by
  cases d with
  | none => exact .none
  | literal l => exact .literal (.refl l)
  | sentinel s => exact .sentinel s

theorem Column.SameShape.refl (c : Column) : c.SameShape c := ⟨rfl, rfl, .refl c.default⟩

theorem TableColumn.SameShape.refl (c : TableColumn) : c.SameShape c :=
  ⟨.refl c.column, rfl, rfl, rfl⟩

theorem Change.SameShape.refl (c : Change) : c.SameShape c := by
  cases c with
  | createTable t cs n =>
    exact .createTable t t (List.forall₂_same.mpr fun c _ => .refl c) rfl
  | dropTable => exact .dropTable ..
  | renameTable => exact .renameTable ..
  | addColumn t c => exact .addColumn t t (.refl c)
  | dropColumn => exact .dropColumn ..
  | renameColumn => exact .renameColumn ..
  | alterColumn t c => exact .alterColumn t t (.refl c)
  | dropDefault t c => exact .dropDefault t t (.refl c)
  | addPrimaryKey t cs n => exact .addPrimaryKey t t rfl rfl
  | renamePrimaryKey => exact .renamePrimaryKey ..
  | dropPrimaryKey => exact .dropPrimaryKey ..
  | addUniqueConstraint t cs n => exact .addUniqueConstraint t t rfl rfl
  | dropUniqueConstraint => exact .dropUniqueConstraint ..
  | addForeignKey t r ks n => exact .addForeignKey t r t r rfl rfl
  | dropForeignKey => exact .dropForeignKey ..
  | addIndex t cs n => exact .addIndex t t rfl rfl
  | dropIndex => exact .dropIndex ..

end SchemaDdl
