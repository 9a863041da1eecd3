import SchemaDdl.Proofs.Builtin
import SchemaDdl.Proofs.Lexical.Builtin
import SchemaDdl.Proofs.Lexical.Reading
import SchemaDdl.Render

/-!
# Defaults that columns of SQL Server carry

SQL Server keeps a default as a constraint, which is created under a name that is derived from its
table and its column and keeps that name when these are renamed. The ledger below follows such
constraints through a run of changes. Dropping the default of a column derives the name anew, so it
drops the constraint that is there exactly if both names are the same.
-/

namespace SchemaDdl.SqlServer

open Lexical

/-- A default that a column carries: the column as it is called now, and as it was called when the
default was given. -/
structure CarriedDefault where
  table : String
  column : String
  givenTable : String
  givenColumn : String
deriving DecidableEq, Repr

namespace CarriedDefault

/-- A default as it is given. -/
def given (table column : String) : CarriedDefault := ⟨table, column, table, column⟩

/-- The constraint that the default was given as. -/
def constraint (e : CarriedDefault) : String :=
  vocabulary.defaultConstraintName e.givenTable e.givenColumn

/-- What becomes of a default. Renaming changes where it is found, and dropping a default takes away
the constraint of the name that is derived at that point and no other. -/
def after (e : CarriedDefault) : Change → Option CarriedDefault
  | .dropTable table => if e.table = table then none else some e
  | .dropColumn table column => if e.table = table ∧ e.column = column then none else some e
  | .alterColumn table column | .dropDefault table column =>
    if e.table = table ∧ e.column = column.name ∧
        e.constraint = vocabulary.defaultConstraintName table column.name then none
    else some e
  | .renameTable oldName newName =>
    some (if e.table = oldName then { e with table := newName } else e)
  | .renameColumn table oldName newName =>
    some (if e.table = table ∧ e.column = oldName then { e with column := newName } else e)
  | _ => some e

end CarriedDefault

/-- The defaults that a change gives. -/
def givenBy : Change → List CarriedDefault
  | .createTable table columns _ =>
    (columns.filter (·.column.default.isSome)).map fun c => .given table c.name
  | .addColumn table column | .alterColumn table column =>
    if column.default.isSome then [.given table column.name] else []
  | _ => []

/-- The defaults that columns carry after one more change. -/
def step (ledger : List CarriedDefault) (change : Change) : List CarriedDefault :=
  ledger.filterMap (·.after change) ++ givenBy change

/-- The defaults that columns carry after changes. -/
def carried (changes : List Change) : List CarriedDefault := changes.foldl step []

/-- The change drops the default of this column. -/
def DropsDefaultOf (table column : String) : Change → Prop
  | .alterColumn t c | .dropDefault t c => t = table ∧ c.name = column
  | _ => False

/-! ## What statements say about defaults -/

/-- The definition of a column with a default of this name. -/
def DefinesDefault (column constraint text : String) : Prop :=
  ∃ type rest, Word type ∧
    text = vocabulary.quoteName column ++ " " ++ type ++ " CONSTRAINT " ++
      vocabulary.quoteName constraint ++ " DEFAULT " ++ rest

/-- The statement gives a column a default of this name: in a new table, with a new column or by
itself. -/
inductive GivesDefault (table column constraint : String) : String → Prop
  | inTable (lines : List String) (line : String) (mem : line ∈ lines)
      (defines : DefinesDefault column constraint line) :
      GivesDefault table column constraint
        ("CREATE TABLE " ++ vocabulary.quoteName table ++ " (\n" ++
          ",\n".intercalate (lines.map ("    " ++ ·)) ++ "\n)")
  | withColumn (definition : String) (defines : DefinesDefault column constraint definition) :
      GivesDefault table column constraint (vocabulary.alterTable table ++ " ADD " ++ definition)
  | alone (expression : String) :
      GivesDefault table column constraint
        (vocabulary.alterTable table ++ " ADD CONSTRAINT " ++ vocabulary.quoteName constraint ++
          " DEFAULT " ++ expression ++ " FOR " ++ vocabulary.quoteName column)

/-- The statement drops the constraint of this name, with a guard or without. -/
def DropsConstraint (table constraint s : String) : Prop :=
  s = dropStatement table constraint ∨ s = guardedDrop table constraint

theorem DropsConstraint.identifiers {t n s : String} (h : DropsConstraint t n s) :
    identifiers? .bracket s = some [t, n] := by
  rcases h with rfl | rfl
  · exact identifiers?_dropStatement t n
  · exact identifiers?_guardedDrop t n

/-- A statement drops one constraint only. -/
theorem DropsConstraint.unique {t n m s : String} (h : DropsConstraint t n s)
    (h' : DropsConstraint t m s) : n = m := by
  have heq := h.identifiers.symm.trans h'.identifiers
  simpa using heq

/-! ## Every change records what it gives -/

variable {table : String} {column : Column} {ss earlier : List String}

theorem definesDefault_of_columnDefinition {identity : Bool} {s : String}
    (h : vocabulary.columnDefinition table column identity = .ok s)
    (hdefault : column.default.isSome) :
    DefinesDefault column.name (vocabulary.defaultConstraintName table column.name) s := by
  change Standard.columnDefinition spelling defaultClause table column identity = .ok s at h
  rw [Standard.columnDefinition_eq_bind] at h
  obtain ⟨type, htype, hclause⟩ := ok_of_bind_ok h
  obtain ⟨clause, hclause, hs⟩ := ok_of_bind_ok hclause
  obtain ⟨expression, hexpression, hclause⟩ := ok_of_bind_ok hclause
  have hword : Word type := by
    cases identity with
    | false => exact word_typeClause _ _ htype
    | true => exact word_identityClause _ _ htype
  cases expression with
  | none =>
    have hnone : column.default = .none := Spelling.defaultExpression_eq_none.mp hexpression
    rw [hnone] at hdefault
    cases hdefault
  | some e =>
    cases hclause
    cases hs
    refine ⟨type, e ++ (if column.nullable then "" else " NOT NULL"), hword, ?_⟩
    simp only [String.append_assoc]
    rfl

theorem givesDefault_of_addColumn (h : dialect.addColumn table column = .ok ss)
    (hdefault : column.default.isSome) :
    ∃ s ∈ ss, GivesDefault table column.name (vocabulary.defaultConstraintName table column.name)
      s := by
  obtain ⟨definition, hdefinition, hss⟩ := ok_of_bind_ok h
  cases hss
  exact ⟨_, by simp, .withColumn _ (definesDefault_of_columnDefinition hdefinition hdefault)⟩

theorem givesDefault_of_addDefaultStatement {s : String}
    (h : dialect.addDefaultStatement table column = .ok s) :
    GivesDefault table column.name (vocabulary.defaultConstraintName table column.name) s := by
  obtain ⟨expression, -, hs⟩ := ok_of_bind_ok h
  cases hs
  exact .alone expression

theorem givesDefault_of_alterColumn (h : dialect.alterColumn table column = .ok ss)
    (hdefault : column.default.isSome) :
    ∃ s ∈ ss, GivesDefault table column.name (vocabulary.defaultConstraintName table column.name)
      s := by
  obtain ⟨dropped, modified, added, -, rfl, hadded⟩ :=
    Builtin.exists_of_alterColumn_eq_ok (b := .sqlServer) (by decide) h
  obtain ⟨s, hs, rfl⟩ := hadded hdefault
  exact ⟨s, List.mem_cons_of_mem _ (List.mem_cons_of_mem _ List.mem_cons_self),
    givesDefault_of_addDefaultStatement hs⟩

theorem givesDefault_of_createTable {columns : List TableColumn} {name : String}
    (h : dialect.createTable table columns name = .ok ss) {c : TableColumn} (hc : c ∈ columns)
    (hdefault : c.column.default.isSome) :
    ∃ s ∈ ss, GivesDefault table c.name (vocabulary.defaultConstraintName table c.name) s := by
  obtain ⟨_, -, hchecked⟩ := ok_of_bind_ok h
  obtain ⟨definitions, hdefinitions, hss⟩ := ok_of_bind_ok hchecked
  cases hss
  obtain ⟨d, hd, hdefinition⟩ := exists_mem_of_mapM_ok hdefinitions hc
  have hdefines := definesDefault_of_columnDefinition hdefinition hdefault
  exact ⟨_, List.mem_singleton_self _, .inTable _ d (by simp [hd]) hdefines⟩

/-- Every default that a change gives is in a statement of the change. -/
theorem givesDefault_of_render {change : Change} (h : change.render dialect = .ok ss) :
    ∀ e ∈ givenBy change, ∃ s ∈ ss, GivesDefault e.givenTable e.givenColumn e.constraint s := by
  intro e he
  cases change with
  | createTable table columns name =>
    obtain ⟨c, hc, rfl⟩ := List.mem_map.mp he
    obtain ⟨hmem, hdefault⟩ := List.mem_filter.mp hc
    exact givesDefault_of_createTable h hmem hdefault
  | addColumn table column =>
    rw [givenBy] at he
    split at he
    · next hdefault =>
      cases List.mem_singleton.mp he
      exact givesDefault_of_addColumn h hdefault
    · cases he
  | alterColumn table column =>
    rw [givenBy] at he
    split at he
    · next hdefault =>
      cases List.mem_singleton.mp he
      exact givesDefault_of_alterColumn h hdefault
    · cases he
  | _ => cases he

/-! ## Runs -/

/-- Every default in the ledger is in a statement. -/
def Recorded (earlier : List String) (ledger : List CarriedDefault) : Prop :=
  ∀ e ∈ ledger, ∃ s ∈ earlier, GivesDefault e.givenTable e.givenColumn e.constraint s

/-- Changes do not touch how a default was given. -/
theorem CarriedDefault.given_of_after {e e' : CarriedDefault} {change : Change}
    (h : e.after change = some e') :
    e'.givenTable = e.givenTable ∧ e'.givenColumn = e.givenColumn := by
  unfold CarriedDefault.after at h
  split at h
  case h_1 | h_2 | h_3 | h_4 =>
    split at h
    · cases h
    · cases h
      exact ⟨rfl, rfl⟩
  case h_5 | h_6 =>
    cases h
    split <;> exact ⟨rfl, rfl⟩
  case h_7 =>
    cases h
    exact ⟨rfl, rfl⟩

theorem recorded_step {ledger : List CarriedDefault} (hledger : Recorded earlier ledger)
    {change : Change} (h : change.render dialect = .ok ss) :
    Recorded (earlier ++ ss) (step ledger change) := by
  intro e he
  rcases List.mem_append.mp he with he | he
  · obtain ⟨e₀, he₀, hafter⟩ := List.mem_filterMap.mp he
    obtain ⟨s, hs, hgives⟩ := hledger e₀ he₀
    obtain ⟨htable, hcolumn⟩ := CarriedDefault.given_of_after hafter
    refine ⟨s, List.mem_append_left _ hs, ?_⟩
    rw [CarriedDefault.constraint, htable, hcolumn]
    exact hgives
  · obtain ⟨s, hs, hgives⟩ := givesDefault_of_render h e he
    exact ⟨s, List.mem_append_right _ hs, hgives⟩

theorem recorded_foldl {ledger : List CarriedDefault} (changes : List Change)
    (hledger : Recorded earlier ledger) (h : (renderChanges dialect changes).failure = none) :
    Recorded (earlier ++ (renderChanges dialect changes).statements)
      (changes.foldl step ledger) := by
  -- Both the ledger and the statements that it refers to grow along the run.
  induction changes generalizing earlier ledger with
  | nil => simpa [renderChanges] using hledger
  | cons change rest ih =>
    rw [renderChanges] at h ⊢
    split at h
    · cases h
    · next ss hss =>
      have hrest : (renderChanges dialect rest).failure = none := Option.map_eq_none_iff.mp h
      rw [List.foldl_cons, ← List.append_assoc]
      exact ih (recorded_step hledger hss) hrest

theorem recorded_carried {before : List Change}
    (h : (renderChanges dialect before).failure = none) :
    Recorded (renderChanges dialect before).statements (carried before) := by
  have hempty : Recorded [] [] := by
    intro e he
    cases he
  have hrun := recorded_foldl before hempty h
  rw [List.nil_append] at hrun
  exact hrun

/-- The first statement drops the constraint whose name is derived now. -/
theorem dropsConstraint_of_render {t n : String} {change : Change}
    (hchange : DropsDefaultOf t n change) (h : change.render dialect = .ok ss) :
    ∃ s, ss.head? = some s ∧ DropsConstraint t (vocabulary.defaultConstraintName t n) s := by
  cases change with
  | alterColumn table column =>
    obtain ⟨rfl, rfl⟩ := hchange
    obtain ⟨dropped, modified, added, hdropped, rfl, -⟩ :=
      Builtin.exists_of_alterColumn_eq_ok (b := .sqlServer) (by decide) h
    cases hdropped
    exact ⟨_, rfl, .inr rfl⟩
  | dropDefault table column =>
    obtain ⟨rfl, rfl⟩ := hchange
    change Standard.dropDefault dialect.dropDefaultStatement table column = .ok ss at h
    rw [Standard.dropDefault_eq_ite] at h
    split at h
    · cases h
    · cases h
      exact ⟨_, rfl, .inl rfl⟩
  | _ => exact hchange.elim

/-- Dropping the default that a column carries drops the constraint that it was given as exactly if
the name derived from the names of today is the one derived from those at the time. -/
theorem drops_constraint_iff (before : List Change)
    (hbefore : (renderChanges dialect before).failure = none) {e : CarriedDefault}
    (he : e ∈ carried before) {change : Change} (hchange : DropsDefaultOf e.table e.column change)
    (h : change.render dialect = .ok ss) :
    (∃ s ∈ (renderChanges dialect before).statements,
        GivesDefault e.givenTable e.givenColumn e.constraint s) ∧
      ∃ s, ss.head? = some s ∧
        DropsConstraint e.table (vocabulary.defaultConstraintName e.table e.column) s ∧
        (DropsConstraint e.table e.constraint s ↔
          vocabulary.defaultConstraintName e.table e.column =
            vocabulary.defaultConstraintName e.givenTable e.givenColumn) := by
  obtain ⟨s, hs, hdrops⟩ := dropsConstraint_of_render hchange h
  refine ⟨recorded_carried hbefore e he, s, hs, hdrops, fun hconstraint => ?_, fun heq => ?_⟩
  · exact hdrops.unique hconstraint
  · rw [CarriedDefault.constraint, ← heq]
    exact hdrops

/-- A column with a default. -/
def statusColumn : Column :=
  { name := "status", kind := .unsized .int32, default := .literal (.int 0) }

/-- A table with that column. -/
def createUsers : Change := .createTable "users" [{ column := statusColumn }] none

theorem drops_constraint_users :
    (renderChanges dialect [createUsers]).failure = none ∧
      .given "users" "status" ∈ carried [createUsers] ∧
      ∃ ss, (Change.alterColumn "users" statusColumn).render dialect = .ok ss ∧
        ∃ s, ss.head? = some s ∧ DropsConstraint "users" "DF_users_status" s := by
  have hbefore : (renderChanges dialect [createUsers]).failure = none := rfl
  have hcarried : CarriedDefault.given "users" "status" ∈ carried [createUsers] := by decide
  have hchange : DropsDefaultOf "users" "status" (.alterColumn "users" statusColumn) := ⟨rfl, rfl⟩
  have hrender : (Change.alterColumn "users" statusColumn).render dialect = .ok _ := rfl
  obtain ⟨-, s, hs, -, hiff⟩ := drops_constraint_iff [createUsers] hbefore hcarried hchange hrender
  exact ⟨hbefore, hcarried, _, hrender, s, hs, hiff.mpr rfl⟩

/-- Once its table is called otherwise, a default is no longer dropped. -/
theorem not_drops_constraint_of_rename :
    ¬∀ (before : List Change) (e : CarriedDefault) (change : Change) (ss : List String),
      (renderChanges dialect before).failure = none → e ∈ carried before →
      DropsDefaultOf e.table e.column change → change.render dialect = .ok ss →
      ∃ s, ss.head? = some s ∧ DropsConstraint e.table e.constraint s := by
  intro h
  have hrender : (Change.alterColumn "accounts" statusColumn).render dialect = .ok _ := rfl
  obtain ⟨s, hs, hdrops⟩ := h [createUsers, .renameTable "users" "accounts"]
    ⟨"accounts", "status", "users", "status"⟩ (.alterColumn "accounts" statusColumn) _ rfl
    (by decide) ⟨rfl, rfl⟩ hrender
  cases hs
  have hname : "DF_users_status" = "DF_accounts_status" :=
    hdrops.unique (.inr rfl)
  exact absurd hname (by decide)

end SchemaDdl.SqlServer
