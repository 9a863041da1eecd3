import SchemaDdl.Proofs.CarriedDefault
import SchemaDdl.Proofs.Expressible

/-!
# Altering a column

The dialects that can alter a column do so by different means, but all in the same steps: what they
do for the column without its default, and then the default is added. `alterColumn_inSteps` says
this, and when altering fails. The first step takes away the earlier default, as dropping the
default would. SQL Server has to guard that step by the name of a constraint, which it writes once
as an identifier and once as a text; it is the name that the default gets wherever it is given.
-/

namespace SchemaDdl

variable {b : Builtin} {table : String} {column : Column} {ss : List String}

namespace Builtin

/-! ## What does not depend on the default -/

theorem dropDefaultStatement_withoutDefault (b : Builtin) (table : String) (column : Column)
    (guarded : Bool) :
    b.dialect.dropDefaultStatement table column.withoutDefault guarded =
      b.dialect.dropDefaultStatement table column guarded := by
  cases b <;> rfl

theorem modifyColumnStatement_withoutDefault (b : Builtin) (table : String) (column : Column) :
    b.dialect.modifyColumnStatement table column.withoutDefault =
      b.dialect.modifyColumnStatement table column := by
  cases b <;> rfl

/-- Altering a column that has no default ends before a default would be added. -/
theorem alterColumn_withoutDefault (hb : b ≠ .sqlite) (table : String) (column : Column) :
    b.dialect.alterColumn table column.withoutDefault =
      b.dialect.dropDefaultStatement table column true >>= fun dropped =>
        b.dialect.modifyColumnStatement table column >>= fun modified =>
          .ok [dropped, modified] := by
  rw [alterColumn_eq_bind hb, dropDefaultStatement_withoutDefault,
    modifyColumnStatement_withoutDefault]
  rfl

/-- A column is altered as if it had no default, which is then added. -/
theorem alterColumn_eq_bind_withoutDefault (hb : b ≠ .sqlite) (table : String) (column : Column) :
    b.dialect.alterColumn table column =
      b.dialect.alterColumn table column.withoutDefault >>= fun bare =>
        if column.default.isSome then
          b.dialect.addDefaultStatement table column >>= fun added => .ok (bare ++ [added])
        else .ok bare := by
  rw [alterColumn_eq_bind hb, alterColumn_withoutDefault hb]
  cases b.dialect.dropDefaultStatement table column true with
  | error e => rfl
  | ok dropped => cases b.dialect.modifyColumnStatement table column <;> rfl

theorem dropDefault_withoutDefault (b : Builtin) (table : String) (column : Column) :
    b.dialect.dropDefault table column.withoutDefault =
      b.dialect.dropDefaultStatement table column false >>= fun dropped => .ok [dropped] := by
  have hnone : ¬column.withoutDefault.default.isSome := Bool.false_ne_true
  rw [b.dropDefault_eq, Standard.dropDefault_eq_ite, if_neg hnone,
    dropDefaultStatement_withoutDefault]

/-- Only SQL Server guards the statement that drops a default. -/
theorem dropDefaultStatement_unguarded (hb : b ≠ .sqlServer) (table : String) (column : Column)
    (guarded : Bool) :
    b.dialect.dropDefaultStatement table column guarded =
      b.dialect.dropDefaultStatement table column false := by
  cases b with
  | sqlServer => exact absurd rfl hb
  | informix | postgresql | sqlite => rfl

/-! ## When altering fails -/

/-- A column is only modified to a type that the dialect has. -/
theorem exists_type_of_modifyColumnStatement {s : String} (hb : b ≠ .sqlite)
    (h : b.dialect.modifyColumnStatement table column = .ok s) :
    ∃ type, b.dialect.typeClause column.kind = .ok type := by
  cases b with
  | informix =>
    obtain ⟨definition, hdefinition, -⟩ := ok_of_bind_ok h
    obtain ⟨type, htype, -⟩ := ok_of_bind_ok hdefinition
    exact ⟨type, htype⟩
  | postgresql | sqlServer =>
    obtain ⟨type, htype, -⟩ := ok_of_bind_ok h
    exact ⟨type, htype⟩
  | sqlite => exact absurd rfl hb

theorem exists_type_of_alterColumn (hb : b ≠ .sqlite)
    (h : b.dialect.alterColumn table column = .ok ss) :
    ∃ type, b.dialect.typeClause column.kind = .ok type := by
  rw [alterColumn_eq_bind hb] at h
  obtain ⟨dropped, -, hrest⟩ := ok_of_bind_ok h
  obtain ⟨modified, hmodified, -⟩ := ok_of_bind_ok hrest
  exact exists_type_of_modifyColumnStatement hb hmodified

/-- A column can be altered exactly if its kind has a type and its default an expression. -/
theorem isOk_alterColumn_iff (hb : b ≠ .sqlite) :
    (∃ ss, b.dialect.alterColumn table column = .ok ss) ↔
      (∃ type, b.dialect.typeClause column.kind = .ok type) ∧
        ∃ expression, b.dialect.defaultExpression column.default = .ok expression := by
  rw [(settled_defaultExpression b column.default).isOk_iff]
  constructor
  · rintro ⟨ss, hss⟩
    obtain ⟨type, ht⟩ := exists_type_of_alterColumn hb hss
    exact ⟨⟨type, ht⟩, ((settled_alterColumn ht).isOk_iff.mp ⟨ss, hss⟩).1⟩
  · rintro ⟨⟨type, ht⟩, hdefault⟩
    exact (settled_alterColumn ht).isOk_iff.mpr ⟨hdefault, hb⟩

theorem alterColumn_eq_error_iff (hb : b ≠ .sqlite) :
    (∃ e, b.dialect.alterColumn table column = .error e) ↔
      (∃ e, b.dialect.typeClause column.kind = .error e) ∨
        ∃ e, b.dialect.defaultExpression column.default = .error e := by
  simp only [exists_error_iff, isOk_alterColumn_iff hb, not_and_or]

end Builtin

/-! ## Constraints of SQL Server -/

namespace SqlServer

/-- The text that a Unicode literal stands for. -/
def unicodeText? (s : String) : Option String :=
  match s.toList with
  | 'N' :: rest =>
    match Text.Quote.single.read? rest with
    | some (content, []) => some (String.ofList content)
    | _ => none
  | _ => none

theorem unicodeText?_unicodeLiteral (text : String) :
    unicodeText? (unicodeLiteral text) = some text := by
  have hread := Text.Quote.single.read?_encode text [] (by simp)
  rw [List.append_nil] at hread
  have hlist : (unicodeLiteral text).toList = 'N' :: (Text.Quote.single.encode text).toList := by
    simp [unicodeLiteral, Text.stringLiteral]
  rw [unicodeText?, hlist]
  simp only [hread, String.ofList_toList]

/-- Whatever statement gives a default to the column gives it under this name. -/
structure NamesDefaultOf (table column constraint : String) : Prop where
  createTable : ∀ columns key ss, dialect.createTable table columns key = .ok ss →
    ∀ c ∈ columns, c.name = column → c.column.default.isSome →
      ∃ s ∈ ss, GivesDefault table column constraint s
  addColumn : ∀ c ss, dialect.addColumn table c = .ok ss → c.name = column → c.default.isSome →
    ∃ s ∈ ss, GivesDefault table column constraint s
  addDefault : ∀ c s, dialect.addDefaultStatement table c = .ok s → c.name = column →
    GivesDefault table column constraint s

theorem namesDefaultOf_defaultConstraintName (table column : String) :
    NamesDefaultOf table column (vocabulary.defaultConstraintName table column) where
  createTable := by
    rintro columns key ss hss c hc rfl hdefault
    exact givesDefault_of_createTable hss hc hdefault
  addColumn := by
    rintro c ss hss rfl hdefault
    exact givesDefault_of_addColumn hss hdefault
  addDefault := by
    rintro c s hs rfl
    exact givesDefault_of_addDefaultStatement hs

end SqlServer

/-! ## The steps -/

namespace Builtin

/-- The statements with which a dialect alters a column. -/
structure AltersInSteps (b : Builtin) (table : String) (column : Column) (ss : List String) :
    Prop where
  /-- They are those for the column without its default, and one for the default. -/
  withoutDefault : ∃ bare, b.dialect.alterColumn table column.withoutDefault = .ok bare ∧
    (column.default = .none → ss = bare) ∧
    (column.default ≠ .none → ∃ added,
      b.dialect.addDefaultStatement table column = .ok added ∧ ss = bare ++ [added])
  /-- The first one drops the default. -/
  unguarded : b ≠ .sqlServer → ∃ dropped,
    b.dialect.dropDefault table column.withoutDefault = .ok [dropped] ∧ ss.head? = some dropped
  /-- SQL Server drops it under the name that it was given, if it is there. -/
  guarded : b = .sqlServer → ∃ dropped constraint literal,
    b.dialect.dropDefault table column.withoutDefault = .ok [dropped] ∧
    dropped = SqlServer.dropStatement table constraint ∧
    SqlServer.unicodeText? literal = some (b.dialect.quoteName constraint) ∧
    ss.head? = some ("IF OBJECT_ID(" ++ literal ++ ", N'D') IS NOT NULL " ++ dropped) ∧
    SqlServer.NamesDefaultOf table column.name constraint

theorem altersInSteps (hb : b ≠ .sqlite) (h : b.dialect.alterColumn table column = .ok ss) :
    b.AltersInSteps table column ss where
  withoutDefault := by
    rw [alterColumn_eq_bind_withoutDefault hb] at h
    obtain ⟨bare, hbare, hadded⟩ := ok_of_bind_ok h
    refine ⟨bare, hbare, ?_⟩
    split at hadded
    · next hs =>
      have hne : column.default ≠ .none := ColumnDefault.isSome_iff_ne_none.mp hs
      obtain ⟨added, hadd, hss⟩ := ok_of_bind_ok hadded
      cases hss
      exact ⟨fun hnone => absurd hnone hne, fun _ => ⟨added, hadd, rfl⟩⟩
    · next hs =>
      have hnone : column.default = .none := ColumnDefault.not_isSome_iff_eq_none.mp hs
      cases hadded
      exact ⟨fun _ => rfl, fun hne => absurd hnone hne⟩
  unguarded := by
    intro hserver
    obtain ⟨dropped, modified, added, hdropped, rfl, -⟩ := exists_of_alterColumn_eq_ok hb h
    rw [dropDefaultStatement_unguarded hserver] at hdropped
    refine ⟨dropped, ?_, rfl⟩
    rw [dropDefault_withoutDefault, hdropped]
    rfl
  guarded := by
    rintro rfl
    obtain ⟨first, modified, added, hfirst, rfl, -⟩ := exists_of_alterColumn_eq_ok hb h
    cases hfirst
    exact ⟨_, SqlServer.vocabulary.defaultConstraintName table column.name, _,
      dropDefault_withoutDefault .sqlServer table column, rfl,
      SqlServer.unicodeText?_unicodeLiteral _, rfl,
      SqlServer.namesDefaultOf_defaultConstraintName table column.name⟩

/-- Altering a column fails exactly if its kind has no type or its default no expression, and else
goes in steps. -/
theorem alterColumn_inSteps (b : Builtin) (hb : b ≠ .sqlite) (table : String) (column : Column) :
    ((∃ e, b.dialect.alterColumn table column = .error e) ↔
      (∃ e, b.dialect.typeClause column.kind = .error e) ∨
        ∃ e, b.dialect.defaultExpression column.default = .error e) ∧
    ∀ ss, b.dialect.alterColumn table column = .ok ss → b.AltersInSteps table column ss :=
  ⟨alterColumn_eq_error_iff hb, fun _ => altersInSteps hb⟩

/-- A column with both delimiters in its name. -/
def oclock : Column :=
  { name := "o'clock]", kind := .unsized .int32, default := .literal (.int 0) }

theorem alterColumn_oclock :
    Builtin.sqlServer ≠ .sqlite ∧
      ∃ ss, Builtin.sqlServer.dialect.alterColumn "bells" oclock = .ok ss ∧
        Builtin.sqlServer.AltersInSteps "bells" oclock ss ∧
        ss = [
          "IF OBJECT_ID(N'[DF_bells_o''clock]]]', N'D') IS NOT NULL " ++
            "ALTER TABLE [bells] DROP CONSTRAINT [DF_bells_o'clock]]]",
          "ALTER TABLE [bells] ALTER COLUMN [o'clock]]] INT NULL",
          "ALTER TABLE [bells] ADD CONSTRAINT [DF_bells_o'clock]]] DEFAULT 0 FOR [o'clock]]]"] := by
  have hb : Builtin.sqlServer ≠ .sqlite := by decide
  have halter : Builtin.sqlServer.dialect.alterColumn "bells" oclock = .ok _ := rfl
  exact ⟨hb, _, halter, (alterColumn_inSteps .sqlServer hb "bells" oclock).2 _ halter, rfl⟩

end Builtin

end SchemaDdl
