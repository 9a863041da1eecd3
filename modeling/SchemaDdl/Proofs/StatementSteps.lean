import Mathlib.Data.List.Forall2
import SchemaDdl.Proofs.Batch
import SchemaDdl.Proofs.Builtin

/-!
# Statements in step

The built-in dialects differ in what their statements say and not in how many of them there are.
Altering a column takes a statement to drop its default, one to modify it and, if it is to have a
default, one to add that; any other change is a single statement. Main statement:
`Builtin.statements_lineUp`, which says that complete batches of two dialects line up, so that
statements at the same place take the same step of the same change.
-/

namespace SchemaDdl

/-! ## Steps -/

/-- What a statement does for its change. -/
inductive Step where
  /-- All that there is to do. -/
  | whole
  | dropDefault
  | modify
  | addDefault
deriving DecidableEq, Repr

namespace Change

/-- The steps of a change, in the order in which they must be taken. -/
def steps : Change → List Step
  | alterColumn _ column =>
    if column.default.isSome then [.dropDefault, .modify, .addDefault] else [.dropDefault, .modify]
  | _ => [.whole]

/-- How many statements a change takes. -/
def statementCount : Change → Nat
  | alterColumn _ column => if column.default = .none then 2 else 3
  | _ => 1

theorem length_steps (change : Change) : change.steps.length = change.statementCount := by
  cases change with
  | alterColumn table column =>
    rw [steps, statementCount]
    by_cases h : column.default = .none
    · rw [if_pos h, if_neg (ColumnDefault.not_isSome_iff_eq_none.mpr h)]
      rfl
    · rw [if_neg h, if_pos (ColumnDefault.isSome_iff_ne_none.mpr h)]
      rfl
  | _ => rfl

end Change

/-- The statement is the one with which the dialect takes this step of the change. -/
inductive Takes (d : Dialect) : Change → Step → String → Prop
  | whole {change : Change} {s : String} (h : change.render d = .ok [s]) : Takes d change .whole s
  | dropDefault {table : String} {column : Column} {s : String}
      (h : d.dropDefaultStatement table column true = .ok s) :
      Takes d (.alterColumn table column) .dropDefault s
  | modify {table : String} {column : Column} {s : String}
      (h : d.modifyColumnStatement table column = .ok s) :
      Takes d (.alterColumn table column) .modify s
  | addDefault {table : String} {column : Column} {s : String}
      (h : d.addDefaultStatement table column = .ok s) :
      Takes d (.alterColumn table column) .addDefault s

/-! ## Operations of one statement -/

/-- An outcome that is a single statement, unless it is a failure. -/
def IsSingle (r : Except DdlError (List String)) : Prop := ∀ ss, r = .ok ss → ∃ s, ss = [s]

namespace IsSingle

theorem ok (s : String) : IsSingle (.ok [s]) := by
  rintro ss ⟨⟩
  exact ⟨s, rfl⟩

theorem error (e : DdlError) : IsSingle (.error e) := nofun

theorem bind {α : Type} {r : Except DdlError α} {f : α → Except DdlError (List String)}
    (h : ∀ a, IsSingle (f a)) : IsSingle (r >>= f) := by
  intro ss hss
  obtain ⟨a, -, ha⟩ := ok_of_bind_ok hss
  exact h a ss ha

end IsSingle

namespace Builtin

variable {b b' : Builtin} {change : Change} {changes : List Change} {ss : List String}

theorem isSingle_createTable (b : Builtin) (table : String) (columns : List TableColumn)
    (name : String) : IsSingle (b.dialect.createTable table columns name) := by
  rw [b.createTable_eq]
  exact .bind fun _ => .bind fun _ => .ok _

theorem isSingle_dropDefault (b : Builtin) (table : String) (column : Column) :
    IsSingle (b.dialect.dropDefault table column) := by
  rw [b.dropDefault_eq, Standard.dropDefault_eq_ite]
  split
  · exact .error _
  · exact .bind fun _ => .ok _

theorem isSingle_addIndex (b : Builtin) (table : String) (columns : List String) (name : String) :
    IsSingle (b.dialect.addIndex table columns name) := by
  rw [b.addIndex_eq]
  exact .bind fun _ => .ok _

theorem isSingle_addColumn (b : Builtin) (table : String) (column : Column) :
    IsSingle (b.dialect.addColumn table column) := by
  cases b <;> exact .bind fun _ => .ok _

theorem isSingle_addConstraint (b : Builtin) (table name : String) (columns : List String)
    (kind : ConstraintKind) : IsSingle (b.dialect.addConstraint table name columns kind) := by
  cases b with
  | sqlite => exact .error _
  | informix | postgresql | sqlServer => exact .bind fun _ => .ok _

theorem isSingle_addForeignKey (b : Builtin) (table referenced : String)
    (references : List KeyReference) (name : String) :
    IsSingle (b.dialect.addForeignKey table referenced references name) := by
  cases b with
  | sqlite => exact .error _
  | informix | postgresql | sqlServer => exact .bind fun _ => .ok _

/-- Dialects that drop constraints at all drop them by one statement. -/
theorem isSingle_dropConstraint (b : Builtin) (table name : String) :
    IsSingle (b.dialect.dropPrimaryKey table name) ∧
      IsSingle (b.dialect.dropUniqueConstraint table name) ∧
      IsSingle (b.dialect.dropForeignKey table name) := by
  cases b with
  | sqlite => exact ⟨.error _, .error _, .error _⟩
  | informix | postgresql | sqlServer => exact ⟨.ok _, .ok _, .ok _⟩

theorem isSingle_renamePrimaryKey (b : Builtin) (table old new : String) :
    IsSingle (b.dialect.renamePrimaryKey table old new) := by
  cases b with
  | informix | sqlite => exact .error _
  | postgresql | sqlServer => exact .ok _

/-- A change other than altering a column is one statement. -/
theorem isSingle_render (b : Builtin) (h : ∀ table column, change ≠ .alterColumn table column) :
    IsSingle (change.render b.dialect) := by
  cases change with
  | alterColumn table column => exact absurd rfl (h table column)
  | createTable table columns name => exact isSingle_createTable b _ _ _
  | dropTable | renameTable | dropColumn | renameColumn | dropIndex => cases b <;> exact .ok _
  | addColumn table column => exact isSingle_addColumn b table column
  | dropDefault table column => exact isSingle_dropDefault b table column
  | addPrimaryKey table columns name =>
    rw [Change.render, b.addPrimaryKey_eq]
    exact isSingle_addConstraint b _ _ _ _
  | addUniqueConstraint table columns name =>
    rw [Change.render, b.addUniqueConstraint_eq]
    exact isSingle_addConstraint b _ _ _ _
  | addForeignKey table referenced references name => exact isSingle_addForeignKey b _ _ _ _
  | addIndex table columns name => exact isSingle_addIndex b _ _ _
  | dropPrimaryKey table name => exact (isSingle_dropConstraint b table name).1
  | dropUniqueConstraint table name => exact (isSingle_dropConstraint b table name).2.1
  | dropForeignKey table name => exact (isSingle_dropConstraint b table name).2.2
  | renamePrimaryKey table old new => exact isSingle_renamePrimaryKey b table old new

/-! ## Changes take their steps -/

theorem takes_of_alterColumn {table : String} {column : Column}
    (h : b.dialect.alterColumn table column = .ok ss) :
    List.Forall₂ (Takes b.dialect (.alterColumn table column))
      (Change.alterColumn table column).steps ss := by
  by_cases hb : b = sqlite
  · subst hb
    cases h
  rw [alterColumn_eq_bind hb] at h
  obtain ⟨dropped, hdropped, hrest⟩ := ok_of_bind_ok h
  obtain ⟨modified, hmodified, hadded⟩ := ok_of_bind_ok hrest
  rw [Change.steps]
  split at hadded
  · next hs =>
    obtain ⟨added, hadd, hss⟩ := ok_of_bind_ok hadded
    cases hss
    rw [if_pos hs]
    exact .cons (.dropDefault hdropped) (.cons (.modify hmodified)
      (.cons (.addDefault hadd) .nil))
  · next hs =>
    cases hadded
    rw [if_neg hs]
    exact .cons (.dropDefault hdropped) (.cons (.modify hmodified) .nil)

/-- A change that renders takes its steps, one by each statement. -/
theorem takes_of_render (h : change.render b.dialect = .ok ss) :
    List.Forall₂ (Takes b.dialect change) change.steps ss := by
  by_cases halter : ∃ table column, change = .alterColumn table column
  · obtain ⟨table, column, rfl⟩ := halter
    exact takes_of_alterColumn h
  · have hother : ∀ table column, change ≠ .alterColumn table column :=
      fun table column heq => halter ⟨table, column, heq⟩
    obtain ⟨s, rfl⟩ := isSingle_render b hother ss h
    have hsteps : change.steps = [.whole] := by
      cases change with
      | alterColumn table column => exact absurd rfl (hother table column)
      | _ => rfl
    rw [hsteps]
    exact .cons (.whole h) .nil

theorem length_of_render (h : change.render b.dialect = .ok ss) :
    ss.length = change.statementCount := by
  rw [← change.length_steps, (takes_of_render h).length_eq]

/-! ## Batches line up -/

/-- Where the statements of a batch belong, whatever the dialect: to which change, by its position
from zero, and to which of its steps. -/
def places : List Change → List (Nat × Step)
  | [] => []
  | change :: rest =>
    change.steps.map (0, ·) ++ (places rest).map fun place => (place.1 + 1, place.2)

/-- The statement takes the step of the change at this place. -/
def TakesAt (b : Builtin) (changes : List Change) (place : Nat × Step) (s : String) : Prop :=
  ∃ change, changes[place.1]? = some change ∧ Takes b.dialect change place.2 s

/-- The statements of a complete batch are at their places. -/
theorem takesAt_of_complete (h : (renderChanges b.dialect changes).failure = none) :
    List.Forall₂ (b.TakesAt changes) (places changes)
      (renderChanges b.dialect changes).statements := by
  induction changes with
  | nil => exact .nil
  | cons change rest ih =>
    cases hchange : change.render b.dialect with
    | error e =>
      rw [renderChanges_cons_of_error hchange] at h
      cases h
    | ok ss =>
      rw [renderChanges_cons_of_ok hchange] at h ⊢
      have hfirst : List.Forall₂ (b.TakesAt (change :: rest)) (change.steps.map (0, ·)) ss := by
        rw [List.forall₂_map_left_iff]
        exact (takes_of_render hchange).imp fun step s hs => ⟨change, rfl, hs⟩
      have hlater := ih (Option.map_eq_none_iff.mp h)
      -- Behind one more change, a later place has the next position and the same change.
      have hshifted : List.Forall₂ (b.TakesAt (change :: rest))
          ((places rest).map fun place => (place.1 + 1, place.2))
          (renderChanges b.dialect rest).statements := by
        rw [List.forall₂_map_left_iff]
        exact hlater.imp fun place s hs => hs
      exact List.rel_append hfirst hshifted

theorem exists_takesAt_of_complete (h : (renderChanges b.dialect changes).failure = none) {n : Nat}
    {s : String} (hs : (renderChanges b.dialect changes).statements[n]? = some s) :
    ∃ place, (places changes)[n]? = some place ∧ b.TakesAt changes place s := by
  obtain ⟨hlength, hget⟩ := List.forall₂_iff_get.mp (takesAt_of_complete h)
  obtain ⟨hn, rfl⟩ := List.getElem?_eq_some_iff.mp hs
  have hplace : n < (places changes).length := hlength ▸ hn
  exact ⟨(places changes)[n], List.getElem?_eq_getElem hplace, hget n hplace hn⟩

theorem exists_parts_of_complete (h : (renderChanges b.dialect changes).failure = none) :
    ∃ parts, changes.mapM (·.render b.dialect) = .ok parts ∧
      (renderChanges b.dialect changes).statements = parts.flatten ∧
      parts.map List.length = changes.map (·.statementCount) := by
  obtain ⟨parts, hparts⟩ :=
    exists_mapM_of_renders ((rendersInOrder b.dialect changes).complete.mp h)
  refine ⟨parts, hparts, by rw [renderChanges_of_mapM_ok hparts], ?_⟩
  have hmaps : changes.map (·.render b.dialect) = parts.map .ok := mapM_eq_ok_iff.mp hparts
  have hcounts : changes.map (·.statementCount) = parts.map List.length := by
    rw [← List.forall₂_eq_eq_eq, List.forall₂_map_left_iff, List.forall₂_map_right_iff] at hmaps ⊢
    exact hmaps.imp fun change ss hss => (length_of_render hss).symm
  exact hcounts.symm

/-- What complete batches of the same changes have in common in two dialects. -/
structure LineUp (b b' : Builtin) (changes : List Change) : Prop where
  /-- Each change contributes as many statements in the one as in the other. -/
  contributions : ∃ parts parts',
    changes.mapM (·.render b.dialect) = .ok parts ∧
    changes.mapM (·.render b'.dialect) = .ok parts' ∧
    (renderChanges b.dialect changes).statements = parts.flatten ∧
    (renderChanges b'.dialect changes).statements = parts'.flatten ∧
    parts.map List.length = changes.map (·.statementCount) ∧
    parts'.map List.length = changes.map (·.statementCount)
  length_eq : (renderChanges b.dialect changes).statements.length =
    (renderChanges b'.dialect changes).statements.length
  /-- Statements of the same number take the same step of the same change. -/
  sameStep : ∀ (n : Nat) (s s' : String),
    (renderChanges b.dialect changes).statements[n]? = some s →
    (renderChanges b'.dialect changes).statements[n]? = some s' →
    ∃ place, (places changes)[n]? = some place ∧
      b.TakesAt changes place s ∧ b'.TakesAt changes place s'

/-- Whatever two dialects both render completely, they render in the same steps. -/
theorem statements_lineUp (h : (renderChanges b.dialect changes).failure = none)
    (h' : (renderChanges b'.dialect changes).failure = none) : LineUp b b' changes where
  contributions := by
    obtain ⟨parts, hparts, hstatements, hcounts⟩ := exists_parts_of_complete h
    obtain ⟨parts', hparts', hstatements', hcounts'⟩ := exists_parts_of_complete h'
    exact ⟨parts, parts', hparts, hparts', hstatements, hstatements', hcounts, hcounts'⟩
  length_eq := by
    calc (renderChanges b.dialect changes).statements.length = (places changes).length :=
          (takesAt_of_complete h).length_eq.symm
      _ = (renderChanges b'.dialect changes).statements.length :=
          (takesAt_of_complete h').length_eq
  sameStep := by
    intro n s s' hs hs'
    obtain ⟨place, hplace, htakes⟩ := exists_takesAt_of_complete h hs
    obtain ⟨place', hplace', htakes'⟩ := exists_takesAt_of_complete h' hs'
    cases hplace.symm.trans hplace'
    exact ⟨place, hplace, htakes, htakes'⟩

/-- A column is added and gets another type, once with a default and once without. -/
def noteChanges : List Change :=
  [.addColumn "notes" { name := "rank", kind := .unsized .int32 },
   .alterColumn "notes"
     { name := "rank", kind := .unsized .int64, nullable := false, default := .literal (.int 7) },
   .alterColumn "notes" { name := "rank", kind := .unsized .int64 },
   .addIndex "notes" ["rank"] none]

theorem statements_lineUp_notes :
    (renderChanges informix.dialect noteChanges).failure = none ∧
      (renderChanges sqlServer.dialect noteChanges).failure = none ∧
      LineUp informix sqlServer noteChanges ∧
      noteChanges.map (·.statementCount) = [1, 3, 2, 1] ∧
      (places noteChanges)[5]? = some (2, .modify) := by
  have hinformix : (renderChanges informix.dialect noteChanges).failure = none := rfl
  have hserver : (renderChanges sqlServer.dialect noteChanges).failure = none := rfl
  exact ⟨hinformix, hserver, statements_lineUp hinformix hserver, rfl, rfl⟩

end Builtin

end SchemaDdl
