import SchemaDdl.CommandLine.Arguments
import SchemaDdl.Listing
import SchemaDdl.PlanFile.Load

/-!
# Running a command

What a command writes and how it ends. The dialect is looked up before a plan is loaded. A plan that
fails at a change still gives the statements of the changes before it.
-/

namespace SchemaDdl.CommandLine

/-- Why a command fails. -/
inductive CommandError where
  /-- Neither the arguments nor the environment name a dialect. -/
  | dialectMissing
  | dialect (cause : DdlError)
  | load (cause : LoadError)
  | change (failure : ChangeFailure)
deriving DecidableEq, Repr

namespace CommandError

def message : CommandError → String
  | dialectMissing => "no dialect given; use --dialect or OXIDE_DDL_DIALECT"
  | dialect cause => cause.message
  | load cause => cause.message
  | change failure => failure.message

end CommandError

/-- What a command writes, and why it fails if it does. -/
structure Outcome where
  output : String
  error : Option CommandError
deriving DecidableEq, Repr

namespace Outcome

def success (output : String) : Outcome := ⟨output, none⟩

/-- A command that fails before it has written anything. -/
def failure (error : CommandError) : Outcome := ⟨"", some error⟩

def exitCode (o : Outcome) : UInt8 := if o.error.isSome then 1 else 0

end Outcome

namespace Invocation

def findDialect (i : Invocation) (registry : Registry) : Except CommandError RegisteredDialect :=
  match i.dialect with
  | none => .error .dialectMissing
  | some name => (registry.find name).mapError .dialect

def withDialect (i : Invocation) (registry : Registry) (body : RegisteredDialect → Outcome) :
    Outcome :=
  match i.findDialect registry with
  | .error error => .failure error
  | .ok dialect => body dialect

def renderPlan (dialect : RegisteredDialect) (plan : Plan) : Outcome :=
  let rendering := plan.render dialect.dialect dialect.capabilities
  ⟨rendering.script.sql, rendering.failure.map .change⟩

/-- Runs the command with the dialects of a registry, where `files` is what reading a file gives. -/
def run (i : Invocation) (registry : Registry)
    (files : String → Except FileError ByteArray) : Outcome :=
  match i.command with
  | .dialects => .success registry.listing
  | .capabilities => i.withDialect registry fun d => .success d.listing
  | .sql path => i.withDialect registry fun d =>
    match Plan.load path (files path) with
    | .error error => .failure (.load error)
    | .ok plan => renderPlan d plan
  | .existsTable database table => i.withDialect registry fun d =>
    .success (d.dialect.existsTable database table ++ "\n")

end Invocation

end SchemaDdl.CommandLine
