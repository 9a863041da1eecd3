import SchemaDdl.Capability
import SchemaDdl.Migration
import SchemaDdl.Render

/-!
# Plans

A plan is a migration with its changes. Rendering a plan first checks every change against the
capability table and only then renders the changes, so a plan that is not valid has no statements.
-/

namespace SchemaDdl

/-- A migration and its changes, in the order in which they apply. -/
structure Plan where
  migration : Migration
  changes : List Change
deriving DecidableEq, Repr

structure Script where
  version : Int
  /-- The statements in the order in which they must run. -/
  statements : List String
  /-- Advice from the capability table. -/
  warnings : List String
deriving DecidableEq, Repr

namespace Script

/-- The statements as a text, each with a semicolon and a line break behind it. -/
def sql (s : Script) : String := String.join (s.statements.map (· ++ ";\n"))

end Script

/-- The change of a plan that cannot be checked or rendered, and why. -/
structure ChangeFailure where
  /-- The position among the changes, from zero. -/
  index : Nat
  operation : Operation
  cause : DdlError
deriving DecidableEq, Repr

namespace ChangeFailure

/-- The failure with one more change in front of it. -/
def shift (f : ChangeFailure) : ChangeFailure := { f with index := f.index + 1 }

def message (f : ChangeFailure) : String :=
  s!"Change #{f.index} ({f.operation.label}) failed: {f.cause.message}"

end ChangeFailure

/-- The script of a plan, and the change that failed if one did. -/
structure PlanRendering where
  script : Script
  failure : Option ChangeFailure
deriving DecidableEq, Repr

namespace Plan

/-- Checks changes in order, and gives the advice for them. The first change that is refused
decides. -/
def validateChanges (table : CapabilityTable) : List Change → Except ChangeFailure (List String)
  | [] => .ok []
  | change :: rest =>
    match change.validate table with
    | .error cause => .error ⟨0, change.operation, cause⟩
    | .ok warnings =>
      match validateChanges table rest with
      | .error failure => .error failure.shift
      | .ok later => .ok (warnings ++ later)

/-- Checks every change of the plan against a capability table. -/
def validate (p : Plan) (table : CapabilityTable) : Except ChangeFailure (List String) :=
  validateChanges table p.changes

/-- What the change at a position is called. -/
def operationAt (p : Plan) (index : Nat) : Operation :=
  match p.changes[index]? with
  | some change => change.operation
  | none => .unknown

theorem operationAt_of_getElem? {p : Plan} {index : Nat} {change : Change}
    (h : p.changes[index]? = some change) : p.operationAt index = change.operation := by
  rw [operationAt, h]

/-- The failure with the operation that the plan has at its position. -/
def locate (p : Plan) (f : RenderFailure) : ChangeFailure :=
  ⟨f.index, p.operationAt f.index, f.cause⟩

/-- Checks the plan, and renders it if it is valid. -/
def render (p : Plan) (d : Dialect) (table : CapabilityTable) : PlanRendering :=
  let version := p.migration.version
  match p.validate table with
  | .error failure => ⟨⟨version, [], []⟩, some failure⟩
  | .ok warnings =>
    let rendered := renderChanges d p.changes
    ⟨⟨version, rendered.statements, warnings⟩, rendered.failure.map p.locate⟩

end Plan

end SchemaDdl
