import SchemaDdl.PlanFile.Kind
import SchemaDdl.PlanFile.Literal
import SchemaDdl.Schema.Column

/-!
# Columns in plan files

A column of a new table has the fields of the column and its roles side by side in one object, and
is never an array of its fields.
-/

namespace SchemaDdl

namespace Column

/-- The fields of a column in a plan file. -/
def members (c : Column) : List (String × Json) :=
  [("name", .string c.name), ("kind", c.kind.toJson), ("nullable", .bool c.nullable),
   ("default", c.default.toJson)]

def toJson (c : Column) : Json := .object c.members

def ofJson? (value : Json) : Option Column := do
  let fields ← value.record? ["name", "kind", "nullable", "default"]
  let name ← fields.required "name" Json.string?
  let kind ← fields.required "kind" SizedKind.ofJson?
  let nullable ← fields.optional "nullable" Json.bool? true
  let default ← fields.optional "default" ColumnDefault.ofJson? .none
  return ⟨name, kind, nullable, default⟩

end Column

namespace TableColumn

/-- The column of a new table in a plan file. -/
def toJson (c : TableColumn) : Json :=
  .object (c.column.members ++
    [("primary_key", .bool c.primaryKey), ("unique_group", .string c.uniqueGroup),
     ("identity", .bool c.identity)])

/-- The names of the fields for the roles. -/
def roleNames : List String := ["primary_key", "unique_group", "identity"]

/-- Reads a column of a new table. All members but those of its roles must be readable, whether they
are fields or not. -/
def ofJson? : Json → Option TableColumn
  | .object members => do
    let (roles, others) := members.partition fun member => roleNames.contains member.1
    let column ← (Json.settled? (.object others)).bind Column.ofJson?
    let fields ← (Json.object roles).record? roleNames
    let primaryKey ← fields.optional "primary_key" Json.bool? false
    let uniqueGroup ← fields.optional "unique_group" Json.string? ""
    let identity ← fields.optional "identity" Json.bool? false
    return ⟨column, primaryKey, uniqueGroup, identity⟩
  | _ => none

end TableColumn

namespace KeyReference

def toJson (r : KeyReference) : Json :=
  .object [("column", .string r.column), ("referenced_column", .string r.referencedColumn)]

def ofJson? (value : Json) : Option KeyReference := do
  let fields ← value.record? ["column", "referenced_column"]
  let column ← fields.required "column" Json.string?
  let referencedColumn ← fields.required "referenced_column" Json.string?
  return ⟨column, referencedColumn⟩

end KeyReference

end SchemaDdl
