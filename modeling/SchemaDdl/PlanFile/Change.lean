import SchemaDdl.PlanFile.Column
import SchemaDdl.Schema.Change

/-!
# Changes in plan files

A change is a variant whose content is the record of its fields. Names that a change leaves out are
null, or missing where the change is read.
-/

namespace SchemaDdl

/-- How the fields of a change may be written. -/
inductive FieldStyle where
  /-- As the members of an object. -/
  | named
  /-- As the members of an object, or as the items of an array. -/
  | namedOrListed
deriving DecidableEq, Repr

namespace FieldStyle

/-- The fields of a change, if they are written in this style. -/
def fields? (style : FieldStyle) (names : List String) (content : Json) : Option Json.Record :=
  match style, content with
  | named, .array _ => none
  | _, _ => content.record? names

end FieldStyle

namespace Json.Record

/-- A text that must be there. -/
def text? (r : Record) (name : String) : Option String := r.required name string?

/-- Texts that must be there. -/
def texts? (r : Record) (name : String) : Option (List String) := r.required name (list? string?)

/-- A name that may be left out. -/
def nameOrNone? (r : Record) (name : String) : Option (Option String) :=
  r.optional name (nullable? string?) none

end Json.Record

namespace Change

def textsJson (texts : List String) : Json := .array (texts.map .string)

/-- A name, or null for none. -/
def nameJson (name : Option String) : Json := name.elim .null .string

def variantName : Change → String
  | createTable .. => "CreateTable"
  | dropTable .. => "DropTable"
  | renameTable .. => "RenameTable"
  | addColumn .. => "AddColumn"
  | dropColumn .. => "DropColumn"
  | renameColumn .. => "RenameColumn"
  | alterColumn .. => "AlterColumn"
  | dropDefault .. => "DropDefault"
  | addPrimaryKey .. => "AddPrimaryKey"
  | renamePrimaryKey .. => "RenamePrimaryKey"
  | dropPrimaryKey .. => "DropPrimaryKey"
  | addUniqueConstraint .. => "AddUniqueConstraint"
  | dropUniqueConstraint .. => "DropUniqueConstraint"
  | addForeignKey .. => "AddForeignKey"
  | dropForeignKey .. => "DropForeignKey"
  | addIndex .. => "AddIndex"
  | dropIndex .. => "DropIndex"

def members : Change → List (String × Json)
  | createTable table columns primaryKeyName =>
    [("table", .string table), ("columns", .array (columns.map (·.toJson))),
     ("primary_key_name", nameJson primaryKeyName)]
  | dropTable table => [("table", .string table)]
  | renameTable oldName newName => [("old_name", .string oldName), ("new_name", .string newName)]
  | addColumn table column | alterColumn table column | dropDefault table column =>
    [("table", .string table), ("column", column.toJson)]
  | dropColumn table column => [("table", .string table), ("column", .string column)]
  | renameColumn table oldName newName | renamePrimaryKey table oldName newName =>
    [("table", .string table), ("old_name", .string oldName), ("new_name", .string newName)]
  | addPrimaryKey table columns name | addUniqueConstraint table columns name
  | addIndex table columns name =>
    [("table", .string table), ("columns", textsJson columns), ("name", nameJson name)]
  | dropPrimaryKey table name | dropUniqueConstraint table name | dropForeignKey table name
  | dropIndex table name => [("table", .string table), ("name", .string name)]
  | addForeignKey table referencedTable references name =>
    [("table", .string table), ("referenced_table", .string referencedTable),
     ("references", .array (references.map (·.toJson))), ("name", nameJson name)]

def toJson (change : Change) : Json := .object [(change.variantName, .object change.members)]

def ofJson? (style : FieldStyle) (value : Json) : Option Change := do
  let (variant, content) ← value.variant?
  let fields? := fun names => style.fields? names content
  match variant with
  | "CreateTable" => do
    let r ← fields? ["table", "columns", "primary_key_name"]
    return createTable (← r.text? "table")
      (← r.required "columns" (Json.list? TableColumn.ofJson?)) (← r.nameOrNone? "primary_key_name")
  | "DropTable" => do
    let r ← fields? ["table"]
    return dropTable (← r.text? "table")
  | "RenameTable" => do
    let r ← fields? ["old_name", "new_name"]
    return renameTable (← r.text? "old_name") (← r.text? "new_name")
  | "AddColumn" => do
    let r ← fields? ["table", "column"]
    return addColumn (← r.text? "table") (← r.required "column" Column.ofJson?)
  | "DropColumn" => do
    let r ← fields? ["table", "column"]
    return dropColumn (← r.text? "table") (← r.text? "column")
  | "RenameColumn" => do
    let r ← fields? ["table", "old_name", "new_name"]
    return renameColumn (← r.text? "table") (← r.text? "old_name") (← r.text? "new_name")
  | "AlterColumn" => do
    let r ← fields? ["table", "column"]
    return alterColumn (← r.text? "table") (← r.required "column" Column.ofJson?)
  | "DropDefault" => do
    let r ← fields? ["table", "column"]
    return dropDefault (← r.text? "table") (← r.required "column" Column.ofJson?)
  | "AddPrimaryKey" => do
    let r ← fields? ["table", "columns", "name"]
    return addPrimaryKey (← r.text? "table") (← r.texts? "columns") (← r.nameOrNone? "name")
  | "RenamePrimaryKey" => do
    let r ← fields? ["table", "old_name", "new_name"]
    return renamePrimaryKey (← r.text? "table") (← r.text? "old_name") (← r.text? "new_name")
  | "DropPrimaryKey" => do
    let r ← fields? ["table", "name"]
    return dropPrimaryKey (← r.text? "table") (← r.text? "name")
  | "AddUniqueConstraint" => do
    let r ← fields? ["table", "columns", "name"]
    return addUniqueConstraint (← r.text? "table") (← r.texts? "columns") (← r.nameOrNone? "name")
  | "DropUniqueConstraint" => do
    let r ← fields? ["table", "name"]
    return dropUniqueConstraint (← r.text? "table") (← r.text? "name")
  | "AddForeignKey" => do
    let r ← fields? ["table", "referenced_table", "references", "name"]
    return addForeignKey (← r.text? "table") (← r.text? "referenced_table")
      (← r.required "references" (Json.list? KeyReference.ofJson?)) (← r.nameOrNone? "name")
  | "DropForeignKey" => do
    let r ← fields? ["table", "name"]
    return dropForeignKey (← r.text? "table") (← r.text? "name")
  | "AddIndex" => do
    let r ← fields? ["table", "columns", "name"]
    return addIndex (← r.text? "table") (← r.texts? "columns") (← r.nameOrNone? "name")
  | "DropIndex" => do
    let r ← fields? ["table", "name"]
    return dropIndex (← r.text? "table") (← r.text? "name")
  | _ => none

end Change

end SchemaDdl
