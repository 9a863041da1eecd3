import SchemaDdl.Proofs.NewTable
import SchemaDdl.Proofs.RoleVerdicts

/-!
# A size of zero

A size of zero means that there is none. Capability tables and type mappers look at the size each on
their own, and `withoutZero` says that they all do so alike: leaving out the zero changes neither
what a table says of a kind nor the type it becomes, hence no column definition, no statement and no
failure. Main statement: `Plan.outcome_of_withoutZero_eq`, for plans that differ in nothing but such
sizes.
-/

namespace SchemaDdl

/-! ## Kinds -/

namespace SizedKind

/-- The kind with no size in place of a size of zero. -/
def withoutZero (k : SizedKind) : SizedKind :=
  { k with size := if k.size = some 0 then none else k.size }

@[simp] theorem kind_withoutZero (k : SizedKind) : k.withoutZero.kind = k.kind := rfl

@[simp] theorem scale_withoutZero (k : SizedKind) : k.withoutZero.scale = k.scale := rfl

@[simp] theorem positiveSize_withoutZero (k : SizedKind) :
    k.withoutZero.positiveSize = k.positiveSize := by
  unfold positiveSize withoutZero
  by_cases hzero : k.size = some 0
  · simp [hzero, Option.filter]
  · simp [hzero]

@[simp] theorem positiveScale_withoutZero (k : SizedKind) :
    k.withoutZero.positiveScale = k.positiveScale := rfl

@[simp] theorem sizedClause_withoutZero (k : SizedKind) (keyword : String) :
    k.withoutZero.sizedClause keyword = k.sizedClause keyword := by
  rw [sizedClause, positiveSize_withoutZero, sizedClause]

@[simp] theorem decimalClause_withoutZero (k : SizedKind) (keyword : String) :
    k.withoutZero.decimalClause keyword = k.decimalClause keyword := by
  rw [decimalClause, positiveSize_withoutZero, scale_withoutZero, decimalClause]

end SizedKind

/-! ## Types -/

@[simp] theorem Informix.textClause_withoutZero (k : SizedKind) :
    textClause k.withoutZero = textClause k := by
  rw [textClause, SizedKind.positiveSize_withoutZero, textClause]

@[simp] theorem SqlServer.variableClause_withoutZero (k : SizedKind) (keyword : String)
    (limit : Nat) :
    variableClause k.withoutZero keyword limit = variableClause k keyword limit := by
  rw [variableClause, SizedKind.positiveSize_withoutZero, variableClause]

theorem Informix.typeClause_withoutZero (k : SizedKind) :
    typeClause k.withoutZero = typeClause k := by
  simp [typeClause]

theorem Postgresql.typeClause_withoutZero (k : SizedKind) :
    typeClause k.withoutZero = typeClause k := by
  simp [typeClause]

theorem Sqlite.typeClause_withoutZero (k : SizedKind) :
    typeClause k.withoutZero = typeClause k := by
  simp [typeClause]

theorem SqlServer.typeClause_withoutZero (k : SizedKind) :
    typeClause k.withoutZero = typeClause k := by
  simp [typeClause]

namespace Builtin

variable (b : Builtin)

@[simp] theorem typeClause_withoutZero (k : SizedKind) :
    b.dialect.typeClause k.withoutZero = b.dialect.typeClause k := by
  cases b with
  | informix => exact Informix.typeClause_withoutZero k
  | postgresql => exact Postgresql.typeClause_withoutZero k
  | sqlite => exact congrArg Except.ok (Sqlite.typeClause_withoutZero k)
  | sqlServer => exact SqlServer.typeClause_withoutZero k

@[simp] theorem identityClause_withoutZero (k : SizedKind) :
    b.dialect.identityClause k.withoutZero = b.dialect.identityClause k := by
  cases b with
  | informix | sqlite => rfl
  | postgresql =>
    change Postgresql.identityClause k.withoutZero = Postgresql.identityClause k
    rw [Postgresql.identityClause, Postgresql.typeClause_withoutZero, Postgresql.identityClause,
      SizedKind.kind_withoutZero]
  | sqlServer =>
    change SqlServer.identityClause k.withoutZero = SqlServer.identityClause k
    rw [SqlServer.identityClause, SqlServer.typeClause_withoutZero, SqlServer.identityClause,
      SizedKind.kind_withoutZero]

end Builtin

/-! ## Capability tables -/

namespace CapabilityTable

theorem firstAccepting_withoutZero (k : SizedKind) (usage : Usage) (entries : List Capability)
    (reason : Rejection) :
    firstAccepting k.withoutZero usage entries reason = firstAccepting k usage entries reason := by
  induction entries generalizing reason with
  | nil => rfl
  | cons c rest ih =>
    have hcheck : c.check k.withoutZero usage = c.check k usage :=
      c.check_congr k.positiveSize_withoutZero k.positiveScale_withoutZero usage
    rw [firstAccepting, firstAccepting, hcheck]
    cases c.check k usage with
    | ok _ => rfl
    | error e => exact ih e

/-- A table judges a kind as without the zero, for the same reason and with the same advice. -/
theorem validate_withoutZero (t : CapabilityTable) (column : String) (k : SizedKind)
    (usage : Usage) : t.validate column k.withoutZero usage = t.validate column k usage := by
  rw [validate, firstAccepting_withoutZero]
  rfl

end CapabilityTable

/-! ## Columns -/

namespace Column

def withoutZero (c : Column) : Column := { c with kind := c.kind.withoutZero }

end Column

namespace TableColumn

def withoutZero (c : TableColumn) : TableColumn := { c with column := c.column.withoutZero }

theorem keepsRoles_withoutZero : NewTable.KeepsRoles withoutZero :=
  ⟨fun _ => rfl, fun _ => rfl, fun _ => rfl, fun _ => rfl⟩

end TableColumn

theorem CapabilityTable.validateColumn_withoutZero (t : CapabilityTable) (c : Column)
    (usage : Usage) : t.validateColumn c.withoutZero usage = t.validateColumn c usage := by
  have hvalidate : t.validate c.name c.kind.withoutZero usage = t.validate c.name c.kind usage :=
    t.validate_withoutZero c.name c.kind usage
  unfold validateColumn
  rw [← hvalidate]
  rfl

namespace Builtin

variable (b : Builtin) (table : String) (c : Column)

theorem defaultClause_withoutZero :
    b.dialect.defaultClause table c.withoutZero = b.dialect.defaultClause table c := by
  cases b <;> rfl

theorem columnDefinition_withoutZero (identity : Bool) :
    b.dialect.columnDefinition table c.withoutZero identity =
      b.dialect.columnDefinition table c identity := by
  have htype := b.typeClause_withoutZero c.kind
  have hidentity := b.identityClause_withoutZero c.kind
  rw [b.columnDefinition_eq, Standard.columnDefinition_eq_bind,
    Standard.columnDefinition_eq_bind, defaultClause_withoutZero, ← htype, ← hidentity]
  rfl

theorem createTable_withoutZero (columns : List TableColumn) (name : String) :
    b.dialect.createTable table (columns.map (·.withoutZero)) name =
      b.dialect.createTable table columns name := by
  refine NewTable.createTable_map TableColumn.keepsRoles_withoutZero b (fun c => ?_) columns
  exact b.columnDefinition_withoutZero table c.defined c.identity

theorem addColumn_withoutZero :
    b.dialect.addColumn table c.withoutZero = b.dialect.addColumn table c := by
  have hdefinition := b.columnDefinition_withoutZero table c false
  cases b <;> exact congrArg (· >>= _) hdefinition

theorem dropDefaultStatement_withoutZero (guarded : Bool) :
    b.dialect.dropDefaultStatement table c.withoutZero guarded =
      b.dialect.dropDefaultStatement table c guarded := by
  cases b with
  | informix =>
    exact congrArg (· >>= _) (informix.columnDefinition_withoutZero table c.withoutDefault false)
  | postgresql | sqlite | sqlServer => rfl

theorem modifyColumnStatement_withoutZero :
    b.dialect.modifyColumnStatement table c.withoutZero =
      b.dialect.modifyColumnStatement table c := by
  have htype := b.typeClause_withoutZero c.kind
  cases b with
  | informix =>
    exact congrArg (· >>= _) (informix.columnDefinition_withoutZero table c.withoutDefault false)
  | sqlite => rfl
  | postgresql | sqlServer => exact congrArg (· >>= _) htype

theorem addDefaultStatement_withoutZero :
    b.dialect.addDefaultStatement table c.withoutZero = b.dialect.addDefaultStatement table c := by
  cases b with
  | informix =>
    have hdefinition := informix.columnDefinition_withoutZero table c false
    exact congrArg (_ >>= fun _ => · >>= _) hdefinition
  | postgresql | sqlite | sqlServer => rfl

theorem alterColumn_withoutZero :
    b.dialect.alterColumn table c.withoutZero = b.dialect.alterColumn table c := by
  by_cases hb : b = sqlite
  · subst hb
    rfl
  · rw [alterColumn_eq_bind hb, alterColumn_eq_bind hb, dropDefaultStatement_withoutZero,
      modifyColumnStatement_withoutZero, addDefaultStatement_withoutZero]
    rfl

theorem dropDefault_withoutZero :
    b.dialect.dropDefault table c.withoutZero = b.dialect.dropDefault table c := by
  rw [b.dropDefault_eq, Standard.dropDefault_eq_ite, Standard.dropDefault_eq_ite,
    dropDefaultStatement_withoutZero]
  rfl

end Builtin

/-! ## Changes -/

namespace Change

def withoutZero : Change → Change
  | createTable table columns name => createTable table (columns.map (·.withoutZero)) name
  | addColumn table column => addColumn table column.withoutZero
  | alterColumn table column => alterColumn table column.withoutZero
  | dropDefault table column => dropDefault table column.withoutZero
  | change => change

variable (change : Change)

theorem operation_withoutZero : change.withoutZero.operation = change.operation := by
  cases change <;> rfl

theorem definedColumns_withoutZero :
    change.withoutZero.definedColumns =
      change.definedColumns.map fun c => (c.1.withoutZero, c.2) := by
  cases change with
  | createTable table columns name =>
    simp only [withoutZero, definedColumns, List.map_map]
    rfl
  | _ => rfl

theorem validate_withoutZero (t : CapabilityTable) :
    change.withoutZero.validate t = change.validate t := by
  unfold validate
  rw [definedColumns_withoutZero, List.mapM_map]
  simp only [Function.comp_def, CapabilityTable.validateColumn_withoutZero]

theorem render_withoutZero (b : Builtin) :
    change.withoutZero.render b.dialect = change.render b.dialect := by
  cases change with
  | createTable table columns name => exact b.createTable_withoutZero table columns _
  | addColumn table column => exact b.addColumn_withoutZero table column
  | alterColumn table column => exact b.alterColumn_withoutZero table column
  | dropDefault table column => exact b.dropDefault_withoutZero table column
  | _ => rfl

end Change

/-! ## Plans -/

theorem renderChanges_withoutZero (b : Builtin) (changes : List Change) :
    renderChanges b.dialect (changes.map (·.withoutZero)) = renderChanges b.dialect changes := by
  induction changes with
  | nil => rfl
  | cons change rest ih =>
    rw [List.map_cons, renderChanges, change.render_withoutZero, ih]
    rfl

namespace Plan

/-- The plan with no size in place of every size of zero. -/
def withoutZero (p : Plan) : Plan := { p with changes := p.changes.map (·.withoutZero) }

theorem validateChanges_withoutZero (t : CapabilityTable) (changes : List Change) :
    validateChanges t (changes.map (·.withoutZero)) = validateChanges t changes := by
  induction changes with
  | nil => rfl
  | cons change rest ih =>
    rw [List.map_cons, validateChanges, change.validate_withoutZero, change.operation_withoutZero,
      ih]
    rfl

variable {p p' : Plan}

theorem validate_withoutZero (p : Plan) (t : CapabilityTable) :
    p.withoutZero.validate t = p.validate t := validateChanges_withoutZero t p.changes

theorem operationAt_withoutZero (p : Plan) (index : Nat) :
    p.withoutZero.operationAt index = p.operationAt index := by
  unfold operationAt
  rw [withoutZero, List.getElem?_map]
  cases p.changes[index]? with
  | none => rfl
  | some change => exact change.operation_withoutZero

theorem locate_withoutZero (p : Plan) : p.withoutZero.locate = p.locate := by
  funext f
  unfold locate
  rw [operationAt_withoutZero]

theorem render_withoutZero (p : Plan) (b : Builtin) (t : CapabilityTable) :
    p.withoutZero.render b.dialect t = p.render b.dialect t := by
  have hrender : renderChanges b.dialect p.withoutZero.changes =
      renderChanges b.dialect p.changes := renderChanges_withoutZero b p.changes
  unfold render
  rw [validate_withoutZero, locate_withoutZero, hrender]
  rfl

/-- Plans that differ in nothing but sizes of zero, some of which are left out, have the same
outcome: what is refused and why, the advice, the statements and the failure. -/
theorem outcome_of_withoutZero_eq (b : Builtin) (t : CapabilityTable)
    (h : p'.withoutZero = p.withoutZero) :
    p'.validate t = p.validate t ∧ p'.render b.dialect t = p.render b.dialect t := by
  constructor
  · calc p'.validate t = p'.withoutZero.validate t := (p'.validate_withoutZero t).symm
      _ = p.withoutZero.validate t := by rw [h]
      _ = p.validate t := p.validate_withoutZero t
  · calc p'.render b.dialect t = p'.withoutZero.render b.dialect t :=
          (p'.render_withoutZero b t).symm
      _ = p.withoutZero.render b.dialect t := by rw [h]
      _ = p.render b.dialect t := p.render_withoutZero b t

/-- A plan with sizes of zero, where the size of its identity column is left open. -/
def files (idSize : Option Nat) : Plan where
  migration :=
    { timestamp :=
        { date := ⟨2027, 4, 26, by decide, by decide, by decide⟩
          time := ⟨6, 17, 38, 4000, by decide, by decide, by decide, by decide⟩ }
      label := "archive"
      tag := none
      label_le := by decide }
  changes :=
    [.createTable "files"
      [{ column := { name := "id", kind := ⟨.int64, idSize, none⟩ }
         primaryKey := true
         identity := true },
       { column := { name := "title", kind := ⟨.string, some 0, none⟩ } }] none,
     .alterColumn "files" { name := "title", kind := ⟨.ansiString, some 0, none⟩ }]

/-- One zero is left out and the others stay. -/
theorem outcome_of_files :
    (files none).withoutZero = (files (some 0)).withoutZero ∧
      (files none).render Builtin.sqlServer.dialect SqlServer.capabilities =
        (files (some 0)).render Builtin.sqlServer.dialect SqlServer.capabilities ∧
      ((files (some 0)).render Builtin.sqlServer.dialect
        SqlServer.capabilities).script.statements.getLast? =
          some "ALTER TABLE [files] ALTER COLUMN [title] VARCHAR(MAX) NULL" := by
  have hsame : (files none).withoutZero = (files (some 0)).withoutZero := rfl
  exact ⟨hsame, (outcome_of_withoutZero_eq .sqlServer SqlServer.capabilities hsame).2, rfl⟩

end Plan

end SchemaDdl
