import Mathlib.Tactic.SplitIfs
import SchemaDdl.Proofs.Settled
import SchemaDdl.Registry

/-!
# The built-in dialects

The four dialects of the library as a type, so that a statement can range over them. `find_builtin`
ties it to the registry: these are the dialects that are found there, under these names.
-/

namespace SchemaDdl

/-- A dialect of this library. -/
inductive Builtin where
  | informix
  | postgresql
  | sqlite
  | sqlServer
deriving DecidableEq, Repr

namespace Builtin

/-- The dialect itself. -/
def dialect : Builtin → Dialect
  | informix => Informix.dialect
  | postgresql => Postgresql.dialect
  | sqlite => Sqlite.dialect
  | sqlServer => SqlServer.dialect

/-- What the dialect supports. -/
def capabilities : Builtin → CapabilityTable
  | informix => Informix.capabilities
  | postgresql => Postgresql.capabilities
  | sqlite => Sqlite.capabilities
  | sqlServer => SqlServer.capabilities

/-- The dialect as it is registered. -/
def registered (b : Builtin) : RegisteredDialect := ⟨b.dialect, b.capabilities⟩

/-! ## What the dialects leave as it is -/

theorem columnDefinition_eq (b : Builtin) :
    b.dialect.columnDefinition =
      Standard.columnDefinition b.dialect.toSpelling b.dialect.defaultClause := by
  cases b <;> rfl

theorem uniqueClause_eq (b : Builtin) :
    b.dialect.uniqueClause = Standard.uniqueClause b.dialect.toSpelling := by
  cases b <;> rfl

theorem createTable_eq (b : Builtin) :
    b.dialect.createTable =
      Standard.createTable b.dialect.toVocabulary b.dialect.checkIdentityColumns := by
  cases b <;> rfl

theorem dropTable_eq (b : Builtin) :
    b.dialect.dropTable = Standard.dropTable b.dialect.toVocabulary := by
  cases b <;> rfl

theorem dropDefault_eq (b : Builtin) :
    b.dialect.dropDefault = Standard.dropDefault b.dialect.dropDefaultStatement := by
  cases b <;> rfl

theorem addPrimaryKey_eq (b : Builtin) (table : String) (columns : List String) (name : String) :
    b.dialect.addPrimaryKey table columns name =
      b.dialect.addConstraint table name columns .primaryKey := by
  cases b <;> rfl

theorem addUniqueConstraint_eq (b : Builtin) (table : String) (columns : List String)
    (name : String) :
    b.dialect.addUniqueConstraint table columns name =
      b.dialect.addConstraint table name columns .unique := by
  cases b <;> rfl

theorem addIndex_eq (b : Builtin) :
    b.dialect.addIndex = Standard.addIndex b.dialect.toVocabulary := by
  cases b <;> rfl

/-! ## Altering a column -/

/-- Every dialect but one alters a column in the same three steps. -/
theorem alterColumn_eq_bind {b : Builtin} (hb : b ≠ sqlite) (table : String) (column : Column) :
    b.dialect.alterColumn table column =
      b.dialect.dropDefaultStatement table column true >>= fun dropped =>
        b.dialect.modifyColumnStatement table column >>= fun modified =>
          if column.default.isSome then
            b.dialect.addDefaultStatement table column >>= fun added =>
              .ok [dropped, modified, added]
          else .ok [dropped, modified] := by
  cases b with
  | sqlite => exact absurd rfl hb
  | informix | postgresql | sqlServer => rfl

/-- The statements with which a column is altered. -/
theorem exists_of_alterColumn_eq_ok {b : Builtin} (hb : b ≠ sqlite) {table : String}
    {column : Column} {ss : List String} (h : b.dialect.alterColumn table column = .ok ss) :
    ∃ dropped modified added, b.dialect.dropDefaultStatement table column true = .ok dropped ∧
      ss = dropped :: modified :: added ∧
      (column.default.isSome → ∃ s, b.dialect.addDefaultStatement table column = .ok s ∧
        added = [s]) := by
  rw [alterColumn_eq_bind hb] at h
  obtain ⟨dropped, hdropped, hrest⟩ := ok_of_bind_ok h
  obtain ⟨modified, -, hadded⟩ := ok_of_bind_ok hrest
  split at hadded
  · obtain ⟨added, hadd, hss⟩ := ok_of_bind_ok hadded
    cases hss
    exact ⟨dropped, modified, [added], hdropped, rfl, fun _ => ⟨added, hadd, rfl⟩⟩
  · next hnone =>
    cases hadded
    exact ⟨dropped, modified, [], hdropped, rfl, fun hsome => absurd hsome hnone⟩

end Builtin

namespace Registry

/-- What the registry of the library finds are the built-in dialects. -/
theorem find_builtin (name : String) (r : RegisteredDialect) :
    builtin.find name = .ok r ↔ ∃ b : Builtin, b.dialect.name = name ∧ r = b.registered := by
  simp only [find, builtin, List.foldl_cons, List.foldl_nil, register, empty,
    Std.TreeMap.getElem?_insert, Std.compare_eq_iff_eq, Std.TreeMap.getElem?_emptyc]
  constructor
  · intro h
    split_ifs at h with hs hl hp hi
    · exact ⟨.sqlServer, hs, (Except.ok.inj h).symm⟩
    · exact ⟨.sqlite, hl, (Except.ok.inj h).symm⟩
    · exact ⟨.postgresql, hp, (Except.ok.inj h).symm⟩
    · exact ⟨.informix, hi, (Except.ok.inj h).symm⟩
  · rintro ⟨b, rfl, rfl⟩
    cases b <;> rfl

end Registry

end SchemaDdl
