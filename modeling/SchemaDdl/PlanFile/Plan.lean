import SchemaDdl.Json.Parser
import SchemaDdl.Json.Printer
import SchemaDdl.PlanFile.Change
import SchemaDdl.Plan

/-!
# Plans as text

A plan file holds one plan in JSON: the migration and the list of its changes, which may be missing.
-/

namespace SchemaDdl

open Calendar (DateTime)

namespace Migration

/-- The migration in a plan file, without a tag if it has none. -/
def toJson (m : Migration) : Json :=
  .object ([("timestamp", .string (m.timestamp.text "T" .asNeeded)), ("module", .string m.label)] ++
    (m.tag.map fun tag => ("tag", Json.string tag)).toList)

/-- Reads a migration; a label that is too long is refused. -/
def ofJson? (value : Json) : Option Migration := do
  let fields ← value.record? ["timestamp", "module", "tag"]
  let timestamp ← (← fields.text? "timestamp") |> DateTime.ofText?
  let label ← fields.optional "module" Json.string? ""
  let tag ← fields.nameOrNone? "tag"
  (create timestamp label tag).toOption

def ofText? (s : String) : Option Migration := (Json.ofText? .kept s).bind ofJson?

end Migration

namespace Plan

def toJson (p : Plan) : Json :=
  .object [("migration", p.migration.toJson), ("changes", .array (p.changes.map (·.toJson)))]

def ofJson? (style : FieldStyle) (value : Json) : Option Plan := do
  let fields ← value.record? ["migration", "changes"]
  let migration ← fields.required "migration" Migration.ofJson?
  let changes ← fields.optional "changes" (Json.list? (Change.ofJson? style)) []
  return ⟨migration, changes⟩

def ofText? (s : String) : Option Plan := (Json.ofText? .kept s).bind (ofJson? .namedOrListed)

end Plan

end SchemaDdl
