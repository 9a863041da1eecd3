import SchemaDdl.Proofs.Accepted
import SchemaDdl.Proofs.Settled

/-!
# Expressible changes

Which changes a built-in dialect can express, said without rendering them. `settled_render` says
that a change whose kinds the capability table accepts renders exactly when it is expressible, and
is refused otherwise; `Plan.render_of_validate` says the same of a whole plan, with the place
of the first change that is not.
-/

namespace SchemaDdl

/-- Whether a dialect has an expression for a default. -/
def ColumnDefault.Writable (b : Builtin) : ColumnDefault → Prop
  | .none => True
  | .literal (.float x) => x.isFinite = true
  | .literal (.binary _) => b ≠ .informix
  | .literal _ => True
  | .sentinel .currentDateTime => True
  | .sentinel .currentUtcDateTime => b ≠ .informix
  | .sentinel .newGuid => b ≠ .informix ∧ b ≠ .sqlite

/-- Whether a dialect can express a change. -/
def Change.Expressible (b : Builtin) : Change → Prop
  | .createTable table columns _ =>
    (∀ c ∈ columns, c.column.default.Writable b) ∧
      (b = .sqlite → Sqlite.checkIdentityColumns table columns = .ok ())
  | .addColumn _ column => column.default.Writable b
  | .alterColumn _ column => column.default.Writable b ∧ b ≠ .sqlite
  | .dropDefault _ column => column.default = .none ∧ b ≠ .sqlite
  | .addPrimaryKey _ columns _ | .addUniqueConstraint _ columns _ => columns ≠ [] ∧ b ≠ .sqlite
  | .addForeignKey _ _ references _ => references ≠ [] ∧ b ≠ .sqlite
  | .addIndex _ columns _ => columns ≠ []
  | .renamePrimaryKey .. => b ≠ .informix ∧ b ≠ .sqlite
  | .dropPrimaryKey .. | .dropUniqueConstraint .. | .dropForeignKey .. => b ≠ .sqlite
  | .dropTable _ | .renameTable .. | .dropColumn .. | .renameColumn .. | .dropIndex .. => True

/-! ## Defaults -/

namespace Spelling

variable {v : Spelling} {table : String} {column : Column} {p : Prop}

/-- A default that must be there is refused where there is none. -/
theorem settled_requiredDefault (hd : Settled (v.defaultExpression column.default) p) :
    Settled (v.requiredDefault table column) (p ∧ column.default ≠ .none) := by
  unfold requiredDefault
  cases he : v.defaultExpression column.default with
  | error e =>
    obtain ⟨hp, hr⟩ := hd.refusal he
    exact Settled.of_error (fun h => hp h.1) hr
  | ok expression =>
    have hp : p := hd.isOk_iff.mp ⟨_, he⟩
    cases expression with
    | none =>
      have hnone : column.default = .none := defaultExpression_eq_none.mp he
      exact Settled.of_error (fun h => h.2 hnone) trivial
    | some e =>
      refine Settled.of_ok ⟨hp, fun hnone => ?_⟩
      rw [hnone] at he
      cases he

end Spelling

theorem settled_finiteFloat (x : Binary64) (dialect : String) :
    Settled (finiteFloat x dialect) (x.isFinite = true) := by
  unfold finiteFloat
  split
  · next h => exact Settled.of_ok h
  · next h => exact Settled.of_error h trivial

/-- Every dialect writes a float in the common form, and so only a finite one. -/
theorem settled_commonFloat (x : Binary64) (dialect : String) :
    Settled ((Literal.float x).commonOrUnmapped dialect) (x.isFinite = true) := by
  rw [Literal.commonOrUnmapped_float]
  exact settled_finiteFloat x dialect

namespace Builtin

theorem settled_literal (b : Builtin) (l : Literal) :
    Settled (b.dialect.literal l) ((ColumnDefault.literal l).Writable b) := by
  cases l with
  | float x => cases b <;> exact settled_commonFloat x _
  | binary bytes =>
    cases b with
    | informix => exact Settled.of_error (fun h => h rfl) trivial
    | postgresql => exact Settled.of_ok (by simp [ColumnDefault.Writable])
    | sqlite => exact Settled.of_ok (by simp [ColumnDefault.Writable])
    | sqlServer => exact Settled.of_ok (by simp [ColumnDefault.Writable])
  | null | bool _ | int _ | text _ | date _ | dateTime _ | time _ =>
    cases b <;> exact Settled.of_ok trivial

theorem settled_sentinel (b : Builtin) (s : Sentinel) :
    Settled (b.dialect.sentinel s) ((ColumnDefault.sentinel s).Writable b) := by
  cases s with
  | currentDateTime => cases b <;> exact Settled.of_ok trivial
  | currentUtcDateTime =>
    cases b with
    | informix => exact Settled.of_error (fun h => h rfl) trivial
    | postgresql | sqlite | sqlServer =>
      exact Settled.of_ok (by simp [ColumnDefault.Writable])
  | newGuid =>
    cases b with
    | informix => exact Settled.of_error (fun h => h.1 rfl) trivial
    | sqlite => exact Settled.of_error (fun h => h.2 rfl) trivial
    | postgresql | sqlServer => exact Settled.of_ok (by simp [ColumnDefault.Writable])

theorem settled_defaultExpression (b : Builtin) (d : ColumnDefault) :
    Settled (b.dialect.defaultExpression d) (d.Writable b) := by
  cases d with
  | none => exact Settled.of_ok trivial
  | literal l => exact (settled_literal b l).map
  | sentinel s => exact (settled_sentinel b s).map

/-! ## Operations on columns -/

variable {b : Builtin} {usage : Usage} {w : Option String}

theorem settled_defaultClause (b : Builtin) (table : String) (column : Column) :
    Settled (b.dialect.defaultClause table column) (column.default.Writable b) := by
  have hexpression := settled_defaultExpression b column.default
  cases b <;> exact hexpression.bind_ok fun expression => by cases expression <;> exact ⟨_, rfl⟩

theorem settled_columnDefinition {table : String} {column : Column} {identity : Bool}
    {type : String} (ht : (if identity then b.dialect.identityClause column.kind
      else b.dialect.typeClause column.kind) = .ok type) :
    Settled (b.dialect.columnDefinition table column identity) (column.default.Writable b) := by
  rw [b.columnDefinition_eq, Standard.columnDefinition_eq_bind]
  apply Settled.ok_bind ht
  exact (settled_defaultClause b table column).bind_ok fun clause => ⟨_, rfl⟩

theorem settled_definition {table : String} {column : Column}
    (h : b.capabilities.validate column.name column.kind usage = .ok w) :
    Settled (b.dialect.columnDefinition table column usage.identity)
      (column.default.Writable b) := by
  cases hi : usage.identity with
  | false =>
    obtain ⟨type, ht⟩ := typeClause_of_accepted h
    exact settled_columnDefinition ht
  | true =>
    obtain ⟨type, ht⟩ := identityClause_of_accepted h hi
    exact settled_columnDefinition ht

theorem settled_checkIdentityColumns (b : Builtin) (table : String) (columns : List TableColumn) :
    Settled (b.dialect.checkIdentityColumns table columns)
      (b = .sqlite → Sqlite.checkIdentityColumns table columns = .ok ()) := by
  cases b with
  | informix | postgresql | sqlServer => exact Settled.of_ok nofun
  | sqlite =>
    change Settled (Sqlite.checkIdentityColumns table columns) _
    cases h : Sqlite.checkIdentityColumns table columns with
    | ok _ => exact Settled.of_ok fun _ => rfl
    | error e =>
      refine Settled.of_error (by simp) ?_
      unfold Sqlite.checkIdentityColumns at h
      split at h
      · split at h
        · cases h
        · cases h; exact trivial
      · cases h

theorem settled_createTable {table : String} {columns : List TableColumn} {name : String}
    (h : ∀ c ∈ columns, ∃ w,
      b.capabilities.validate c.name c.column.kind ⟨c.primaryKey, c.identity⟩ = .ok w) :
    Settled (b.dialect.createTable table columns name)
      ((∀ c ∈ columns, c.column.default.Writable b) ∧
        (b = .sqlite → Sqlite.checkIdentityColumns table columns = .ok ())) := by
  have hdefs : Settled (columns.mapM fun c => b.dialect.columnDefinition table c.defined c.identity)
      (∀ c ∈ columns, c.column.default.Writable b) := by
    apply Settled.mapM
    intro c hc
    obtain ⟨w, hw⟩ := h c hc
    have hdefined : b.capabilities.validate c.defined.name c.defined.kind
        ⟨c.primaryKey, c.identity⟩ = .ok w := hw
    exact settled_definition hdefined
  have hcheck := settled_checkIdentityColumns b table columns
  rw [and_comm]
  rw [b.createTable_eq]
  exact hcheck.bind fun _ => hdefs.bind_ok fun definitions => ⟨_, rfl⟩

theorem settled_addColumn {table : String} {column : Column}
    (h : b.capabilities.validate column.name column.kind {} = .ok w) :
    Settled (b.dialect.addColumn table column) (column.default.Writable b) := by
  have hdef : Settled (b.dialect.columnDefinition table column false)
      (column.default.Writable b) := settled_definition h
  cases b <;> exact hdef.bind_ok fun definition => ⟨_, rfl⟩

/-! ## Altering a column

Altering a column needs a type for its kind, and nothing else from the capability table. -/

section

variable {table : String} {column : Column} {type : String}
  (ht : b.dialect.typeClause column.kind = .ok type)

include ht

theorem exists_definition_withoutDefault :
    ∃ s, b.dialect.columnDefinition table column.withoutDefault false = .ok s := by
  have hbare : Settled (b.dialect.columnDefinition table column.withoutDefault false)
      (column.withoutDefault.default.Writable b) :=
    settled_columnDefinition ht
  exact hbare.isOk_iff.mpr trivial

theorem exists_dropDefaultStatement (guarded : Bool) (hb : b ≠ .sqlite) :
    ∃ s, b.dialect.dropDefaultStatement table column guarded = .ok s := by
  cases b with
  | informix => exact exists_ok_bind (exists_definition_withoutDefault ht) fun s => ⟨_, rfl⟩
  | postgresql => exact ⟨_, rfl⟩
  | sqlite => exact absurd rfl hb
  | sqlServer => cases guarded <;> exact ⟨_, rfl⟩

theorem exists_modifyColumnStatement (hb : b ≠ .sqlite) :
    ∃ s, b.dialect.modifyColumnStatement table column = .ok s := by
  cases b with
  | informix => exact exists_ok_bind (exists_definition_withoutDefault ht) fun s => ⟨_, rfl⟩
  | postgresql => exact exists_ok_bind ⟨type, ht⟩ fun type => ⟨_, rfl⟩
  | sqlite => exact absurd rfl hb
  | sqlServer => exact exists_ok_bind ⟨type, ht⟩ fun type => ⟨_, rfl⟩

theorem settled_addDefaultStatement (hb : b ≠ .sqlite) :
    Settled (b.dialect.addDefaultStatement table column)
      (column.default.Writable b ∧ column.default ≠ .none) := by
  have hd : Settled (b.dialect.requiredDefault table column)
      (column.default.Writable b ∧ column.default ≠ .none) :=
    Spelling.settled_requiredDefault (settled_defaultExpression b column.default)
  cases b with
  | informix =>
    -- The default is looked at twice here, alone and as part of the definition.
    have hdef : Settled (Builtin.informix.dialect.columnDefinition table column false)
        (column.default.Writable .informix) :=
      settled_columnDefinition ht
    have hboth := hd.bind fun _ => hdef.bind_ok (f := fun s => .ok (Informix.modify table s))
      fun s => ⟨_, rfl⟩
    exact hboth.congr (and_iff_left_of_imp And.left)
  | postgresql => exact hd.bind_ok fun expression => ⟨_, rfl⟩
  | sqlite => exact absurd rfl hb
  | sqlServer => exact hd.bind_ok fun expression => ⟨_, rfl⟩

theorem settled_alterColumn :
    Settled (b.dialect.alterColumn table column) (column.default.Writable b ∧ b ≠ .sqlite) := by
  by_cases hb : b = .sqlite
  · subst hb
    exact Settled.of_error (fun hp => hp.2 rfl) trivial
  obtain ⟨dropped, hdrop⟩ := exists_dropDefaultStatement ht true hb
  obtain ⟨modified, hmod⟩ := exists_modifyColumnStatement ht hb
  rw [alterColumn_eq_bind hb, and_iff_left hb]
  refine Settled.ok_bind hdrop (Settled.ok_bind hmod ?_)
  split
  · next hs =>
    have hne : column.default ≠ .none := ColumnDefault.isSome_iff_ne_none.mp hs
    have hadd : Settled (b.dialect.addDefaultStatement table column)
        (column.default.Writable b ∧ column.default ≠ .none) := settled_addDefaultStatement ht hb
    exact (hadd.congr (and_iff_left hne)).bind_ok fun added => ⟨_, rfl⟩
  · next hs =>
    rw [ColumnDefault.not_isSome_iff_eq_none.mp hs]
    exact Settled.of_ok trivial

theorem settled_dropDefault :
    Settled (b.dialect.dropDefault table column) (column.default = .none ∧ b ≠ .sqlite) := by
  rw [b.dropDefault_eq, Standard.dropDefault_eq_ite]
  split
  · next hs =>
    have hne : column.default ≠ .none := ColumnDefault.isSome_iff_ne_none.mp hs
    exact Settled.of_error (fun hp => hne hp.1) trivial
  · next hs =>
    rw [and_iff_right (ColumnDefault.not_isSome_iff_eq_none.mp hs)]
    by_cases hb : b = .sqlite
    · subst hb
      exact Settled.of_error (fun hp => hp rfl) trivial
    · have hdrop : ∃ s, b.dialect.dropDefaultStatement table column false = .ok s :=
        exists_dropDefaultStatement ht false hb
      obtain ⟨dropped, hdropped⟩ := hdrop
      exact Settled.ok_bind hdropped (Settled.of_ok hb)

end

/-! ## Operations on keys and indexes -/

theorem settled_requireColumns (operation : Operation) (table : String) (columns : List String) :
    Settled (requireColumns operation table columns) (columns ≠ []) := by
  cases columns with
  | nil => exact Settled.of_error (fun h => h rfl) trivial
  | cons c rest => exact Settled.of_ok (List.cons_ne_nil c rest)

theorem settled_addConstraint (b : Builtin) (table name : String) (columns : List String)
    (kind : ConstraintKind) :
    Settled (b.dialect.addConstraint table name columns kind) (columns ≠ [] ∧ b ≠ .sqlite) := by
  have hcols := settled_requireColumns kind.operation table columns
  by_cases hb : b = .sqlite
  · subst hb
    exact Settled.of_error (fun h => h.2 rfl) trivial
  rw [and_iff_left hb]
  cases b with
  | sqlite => exact absurd rfl hb
  | informix | postgresql | sqlServer => exact hcols.bind_ok fun _ => ⟨_, rfl⟩

theorem settled_addForeignKey (b : Builtin) (table referenced : String)
    (references : List KeyReference) (name : String) :
    Settled (b.dialect.addForeignKey table referenced references name)
      (references ≠ [] ∧ b ≠ .sqlite) := by
  have hcols := settled_requireColumns .addForeignKey table (references.map (·.column))
  by_cases hb : b = .sqlite
  · subst hb
    exact Settled.of_error (fun h => h.2 rfl) trivial
  have hne : references.map (·.column) ≠ [] ↔ references ≠ [] := by simp
  rw [and_iff_left hb, ← hne]
  cases b with
  | sqlite => exact absurd rfl hb
  | informix | postgresql | sqlServer => exact hcols.bind_ok fun _ => ⟨_, rfl⟩

theorem settled_addIndex (b : Builtin) (table : String) (columns : List String) (name : String) :
    Settled (b.dialect.addIndex table columns name) (columns ≠ []) := by
  rw [b.addIndex_eq]
  exact (settled_requireColumns .addIndex table columns).bind_ok fun _ => ⟨_, rfl⟩

end Builtin

/-! ## Changes and plans -/

/-- A change whose kinds are accepted renders exactly when it is expressible. -/
theorem settled_render {b : Builtin} {change : Change} {ws : List String}
    (h : change.validate b.capabilities = .ok ws) :
    Settled (change.render b.dialect) (change.Expressible b) := by
  have hcol : ∀ {column usage}, (column, usage) ∈ change.definedColumns →
      ∃ w, b.capabilities.validate column.name column.kind usage = .ok w :=
    Change.accepted_of_validate h
  cases change with
  | createTable table columns name =>
    apply Builtin.settled_createTable
    intro c hc
    exact hcol (List.mem_map_of_mem hc)
  | addColumn table column =>
    obtain ⟨w, hw⟩ := hcol (List.mem_singleton_self _)
    exact Builtin.settled_addColumn hw
  | alterColumn table column =>
    obtain ⟨w, hw⟩ := hcol (List.mem_singleton_self _)
    obtain ⟨type, ht⟩ := Builtin.typeClause_of_accepted hw
    exact Builtin.settled_alterColumn ht
  | dropDefault table column =>
    obtain ⟨w, hw⟩ := hcol (List.mem_singleton_self _)
    obtain ⟨type, ht⟩ := Builtin.typeClause_of_accepted hw
    exact Builtin.settled_dropDefault ht
  | addPrimaryKey table columns name =>
    rw [Change.render, b.addPrimaryKey_eq]
    exact Builtin.settled_addConstraint b table _ columns .primaryKey
  | addUniqueConstraint table columns name =>
    rw [Change.render, b.addUniqueConstraint_eq]
    exact Builtin.settled_addConstraint b table _ columns .unique
  | addForeignKey table referenced references name =>
    exact Builtin.settled_addForeignKey b table referenced references _
  | addIndex table columns name => exact Builtin.settled_addIndex b table columns _
  | renamePrimaryKey table old new =>
    cases b with
    | informix => exact Settled.of_error (fun hp => hp.1 rfl) trivial
    | sqlite => exact Settled.of_error (fun hp => hp.2 rfl) trivial
    | postgresql | sqlServer => exact Settled.of_ok (by simp [Change.Expressible])
  | dropPrimaryKey | dropUniqueConstraint | dropForeignKey =>
    cases b with
    | sqlite => exact Settled.of_error (fun hp => hp rfl) trivial
    | informix | postgresql | sqlServer => exact Settled.of_ok (by simp [Change.Expressible])
  | dropTable | renameTable | dropColumn | renameColumn | dropIndex =>
    cases b <;> exact Settled.of_ok trivial

/-- In a valid batch, every change is valid by itself. -/
theorem Plan.validate_of_validateChanges {table : CapabilityTable} {changes : List Change}
    {ws : List String} (h : validateChanges table changes = .ok ws) :
    ∀ change ∈ changes, ∃ w, change.validate table = .ok w := by
  induction changes generalizing ws with
  | nil => simp
  | cons change rest ih =>
    unfold validateChanges at h
    split at h
    · cases h
    · next w hw =>
      split at h
      · cases h
      · next later hlater =>
        intro change' hmem
        rcases List.mem_cons.mp hmem with rfl | hmem
        · exact ⟨w, hw⟩
        · exact ih hlater change' hmem

/-- A batch whose changes are settled one by one fails at the first whose condition fails. -/
theorem renderChanges_failure {d : Dialect} {changes : List Change} {P : Change → Prop}
    (h : ∀ change ∈ changes, Settled (change.render d) (P change)) :
    ((renderChanges d changes).failure = none ↔ ∀ change ∈ changes, P change) ∧
    ∀ f, (renderChanges d changes).failure = some f →
      (∃ change, changes[f.index]? = some change ∧ ¬P change) ∧
      (∀ change ∈ changes.take f.index, P change) ∧ f.cause.IsRefusal := by
  induction changes with
  | nil => simp [renderChanges]
  | cons change rest ih =>
    have hfirst := h change (by simp)
    obtain ⟨hnone, hsome⟩ := ih fun c hc => h c (by simp [hc])
    unfold renderChanges
    cases hr : change.render d with
    | error e =>
      obtain ⟨hp, he⟩ := hfirst.refusal hr
      simp [hp, he]
    | ok statements =>
      have hp : P change := hfirst.isOk_iff.mp ⟨_, hr⟩
      refine ⟨by simp [hp, hnone], ?_⟩
      intro f hf
      obtain ⟨f', hf', rfl⟩ := Option.map_eq_some_iff.mp hf
      obtain ⟨hat, hbefore, hcause⟩ := hsome f' hf'
      refine ⟨hat, ?_, hcause⟩
      simpa [RenderFailure.shift, hp] using hbefore

namespace Plan

/-- A valid plan renders exactly when every change is expressible. Otherwise it fails at the first
change that is not, and with a refusal. -/
theorem render_of_validate (b : Builtin) (p : Plan) (ws : List String)
    (h : p.validate b.capabilities = .ok ws) :
    ((p.render b.dialect b.capabilities).failure = none ↔
      ∀ change ∈ p.changes, change.Expressible b) ∧
    ∀ f, (p.render b.dialect b.capabilities).failure = some f →
      (∃ change, p.changes[f.index]? = some change ∧ ¬change.Expressible b ∧
        f.operation = change.operation) ∧
      (∀ change ∈ p.changes.take f.index, change.Expressible b) ∧ f.cause.IsRefusal := by
  have hrender : (p.render b.dialect b.capabilities).failure =
      (renderChanges b.dialect p.changes).failure.map p.locate := by
    unfold render
    rw [h]
  have hsettled : ∀ change ∈ p.changes,
      Settled (change.render b.dialect) (change.Expressible b) := by
    intro change hmem
    obtain ⟨w, hw⟩ := validate_of_validateChanges h change hmem
    exact settled_render hw
  obtain ⟨hnone, hsome⟩ := renderChanges_failure hsettled
  rw [hrender, Option.map_eq_none_iff]
  refine ⟨hnone, fun f hf => ?_⟩
  obtain ⟨f', hf', rfl⟩ := Option.map_eq_some_iff.mp hf
  obtain ⟨⟨change, hat, hnot⟩, hbefore, hcause⟩ := hsome f' hf'
  exact ⟨⟨change, hat, hnot, operationAt_of_getElem? hat⟩, hbefore, hcause⟩

/-- A plan whose third change Informix cannot express. -/
def keyRename : Plan where
  migration :=
    { timestamp :=
        { date := ⟨2024, 3, 9, by decide, by decide, by decide⟩
          time := ⟨14, 5, 0, 0, by decide, by decide, by decide, by decide⟩ }
      label := "billing"
      tag := none
      label_le := by decide }
  changes :=
    [.createTable "invoices"
      [{ column := { name := "id", kind := .unsized .int32 }
         primaryKey := true
         identity := true },
       { column := { name := "total", kind := .decimal 10 2, default := .literal (.int 0) } }] none,
     .addIndex "invoices" ["total"] none,
     .renamePrimaryKey "invoices" "PK_invoices" "PK_bills"]

theorem render_keyRename :
    keyRename.validate Builtin.informix.capabilities = .ok [] ∧
    (keyRename.render Builtin.informix.dialect Builtin.informix.capabilities).failure ≠ none := by
  have hvalid : keyRename.validate Builtin.informix.capabilities = .ok [] := rfl
  refine ⟨hvalid, fun hnone => ?_⟩
  have hall := (render_of_validate .informix keyRename [] hvalid).1.mp hnone
  exact (hall (.renamePrimaryKey "invoices" "PK_invoices" "PK_bills") (by simp [keyRename])).1 rfl

end Plan

end SchemaDdl
