import SchemaDdl.Proofs.NewTable

/-!
# Identity columns of SQLite

An identity column has its values assigned only as an alias of the row number, which it is only
where it alone makes up the primary key. The check looks at the first identity column of a table.
`checkIdentityColumns_iff` says when that is enough: unless a second identity column stands behind
one that does make up the key.
-/

namespace SchemaDdl.Sqlite

/-- The column makes up the primary key by itself. -/
def SoleKey (columns : List TableColumn) (c : TableColumn) : Prop :=
  columns.filter (·.primaryKey) = [c]

instance (columns : List TableColumn) (c : TableColumn) : Decidable (SoleKey columns c) :=
  inferInstanceAs (Decidable (_ = _))

/-- Every identity column makes up the primary key by itself. -/
def IdentityIsKey (columns : List TableColumn) : Prop :=
  ∀ c ∈ columns, c.identity = true → SoleKey columns c

variable {table : String} {columns : List TableColumn} {c : TableColumn}

theorem eq_singleton_of_mem {α : Type} {a : α} {as : List α} (h : a ∈ as) (hlen : as.length ≤ 1) :
    as = [a] := by
  obtain ⟨b, rfl⟩ := List.length_eq_one_iff.mp (Nat.le_antisymm hlen (List.length_pos_of_mem h))
  rw [List.mem_singleton.mp h]

theorem soleKey_iff (hc : c ∈ columns) :
    SoleKey columns c ↔ c.primaryKey = true ∧ columns.countP (·.primaryKey) = 1 := by
  rw [SoleKey, List.countP_eq_length_filter]
  constructor
  · intro hkey
    have hmem : c ∈ columns.filter (·.primaryKey) := by simp [hkey]
    exact ⟨(List.mem_filter.mp hmem).2, by simp [hkey]⟩
  · rintro ⟨hprimary, hcount⟩
    exact eq_singleton_of_mem (List.mem_filter.mpr ⟨hc, hprimary⟩) (Nat.le_of_eq hcount)

/-- The check decides about the first identity column. -/
theorem checkIdentityColumns_of_find? (h : columns.find? (·.identity) = some c) :
    checkIdentityColumns table columns =
      if SoleKey columns c then .ok ()
      else .error (.precondition (.identityNotSoleKey table c.name)) := by
  unfold checkIdentityColumns
  rw [h]
  apply if_congr _ rfl rfl
  rw [Bool.and_eq_true, beq_iff_eq, soleKey_iff (List.mem_of_find?_eq_some h)]

theorem checkIdentityColumns_eq_ok_iff :
    checkIdentityColumns table columns = .ok () ↔
      ∀ c, columns.find? (·.identity) = some c → SoleKey columns c := by
  cases h : columns.find? (·.identity) with
  | none => simp [checkIdentityColumns, h]
  | some c => simp [checkIdentityColumns_of_find? h]

theorem countP_identity_le_one (h : IdentityIsKey columns) : columns.countP (·.identity) ≤ 1 := by
  cases hfirst : columns.find? (·.identity) with
  | none =>
    have hnone : columns.countP (·.identity) = 0 :=
      List.countP_eq_zero.mpr (List.find?_eq_none.mp hfirst)
    omega
  | some c =>
    have hc := List.mem_of_find?_eq_some hfirst
    have hone := ((soleKey_iff hc).mp (h c hc (List.find?_some hfirst))).2
    rw [← hone]
    exact List.countP_mono_left fun c' hc' hidentity =>
      ((soleKey_iff hc').mp (h c' hc' hidentity)).1

theorem identityIsKey_iff :
    IdentityIsKey columns ↔
      (∀ c, columns.find? (·.identity) = some c → SoleKey columns c) ∧
        columns.countP (·.identity) ≤ 1 := by
  constructor
  · intro h
    refine ⟨fun c hfirst => ?_, countP_identity_le_one h⟩
    exact h c (List.mem_of_find?_eq_some hfirst) (List.find?_some hfirst)
  · rintro ⟨hfirst, hcount⟩ c hc hidentity
    rw [List.countP_eq_length_filter] at hcount
    have honly : columns.filter (·.identity) = [c] :=
      eq_singleton_of_mem (List.mem_filter.mpr ⟨hc, hidentity⟩) hcount
    apply hfirst
    rw [← List.head?_filter, honly]
    rfl

/-! ## Creating the table -/

/-- A run that never asks its caller for anything. -/
def Unconditional {α : Type} (r : Except DdlError α) : Prop :=
  ∀ violated, r ≠ .error (.precondition violated)

theorem Unconditional.bind {α β : Type} {r : Except DdlError α} {f : α → Except DdlError β}
    (hr : Unconditional r) (hf : ∀ a, Unconditional (f a)) : Unconditional (r >>= f) := by
  cases r with
  | error e => exact fun violated h => hr violated (congrArg Except.error (Except.error.inj h))
  | ok a => exact hf a

theorem Unconditional.map {α β : Type} {r : Except DdlError α} {f : α → β}
    (hr : Unconditional r) : Unconditional (r.map f) := by
  cases r with
  | error e => exact fun violated h => hr violated (congrArg Except.error (Except.error.inj h))
  | ok a => exact nofun

theorem unconditional_literal (l : Literal) : Unconditional (literal l) := by
  cases l with
  | float x =>
    change Unconditional ((Literal.float x).commonOrUnmapped name)
    rw [Literal.commonOrUnmapped_float, finiteFloat]
    split <;> exact nofun
  | _ => exact nofun

theorem unconditional_definition (c : TableColumn) :
    Unconditional (NewTable.definition dialect table c) := by
  have htype : Unconditional
      (if c.identity then identityClause c.column.kind else .ok (typeClause c.column.kind)) := by
    unfold identityClause
    split
    · split <;> exact nofun
    · exact nofun
  have hdefault : Unconditional (vocabulary.defaultExpression c.column.default) := by
    cases c.column.default with
    | none => exact nofun
    | literal l => exact (unconditional_literal l).map
    | sentinel s => cases s <;> exact nofun
  rw [NewTable.definition_eq_spelledDefinition rfl]
  refine htype.bind fun type => Unconditional.bind ?_ fun clause => nofun
  refine hdefault.bind fun expression => ?_
  cases expression <;> exact nofun

theorem unconditional_statements (primaryKeyName : String) :
    Unconditional (NewTable.statements dialect table columns primaryKeyName) := by
  refine Unconditional.bind ?_ fun definitions => nofun
  intro violated h
  obtain ⟨-, c, -, -, -, hfirst⟩ := mapM_eq_error_iff.mp h
  exact unconditional_definition c violated hfirst

theorem createTable_eq_bind (primaryKeyName : String) :
    dialect.createTable table columns primaryKeyName =
      checkIdentityColumns table columns >>= fun _ =>
        NewTable.statements dialect table columns primaryKeyName :=
  NewTable.createTable_eq_bind (d := dialect)

/-- The check stands for the rule exactly if there is no second identity column behind one that
makes up the key. What the check refuses gives no table, and what it accepts is refused for no other
precondition. -/
theorem checkIdentityColumns_iff (table : String) (columns : List TableColumn) :
    (checkIdentityColumns table columns = .ok () ↔
        ∀ c, columns.find? (·.identity) = some c → SoleKey columns c) ∧
      ((checkIdentityColumns table columns = .ok () ↔ IdentityIsKey columns) ↔
        ¬(1 < columns.countP (·.identity) ∧
          ∃ c, columns.find? (·.identity) = some c ∧ SoleKey columns c)) ∧
      (∀ e, checkIdentityColumns table columns = .error e →
        (∃ c ∈ columns, c.identity = true ∧
          e = .precondition (.identityNotSoleKey table c.name)) ∧
        ∀ primaryKeyName, dialect.createTable table columns primaryKeyName = .error e) ∧
      (checkIdentityColumns table columns = .ok () → ∀ primaryKeyName violated,
        dialect.createTable table columns primaryKeyName ≠ .error (.precondition violated)) := by
  refine ⟨checkIdentityColumns_eq_ok_iff, ?_, ?_, ?_⟩
  · rw [checkIdentityColumns_eq_ok_iff, identityIsKey_iff]
    cases hfirst : columns.find? (·.identity) with
    | none =>
      have hnone : columns.countP (·.identity) = 0 :=
        List.countP_eq_zero.mpr (List.find?_eq_none.mp hfirst)
      simp [hnone]
    | some c => by_cases hkey : SoleKey columns c <;> simp [hkey]
  · intro e he
    refine ⟨?_, fun primaryKeyName => ?_⟩
    · cases hfirst : columns.find? (·.identity) with
      | none =>
        rw [checkIdentityColumns, hfirst] at he
        cases he
      | some c =>
        rw [checkIdentityColumns_of_find? hfirst] at he
        split at he
        · cases he
        · cases he
          exact ⟨c, List.mem_of_find?_eq_some hfirst, List.find?_some hfirst, rfl⟩
    · rw [createTable_eq_bind, he]
      rfl
  · intro hok primaryKeyName
    rw [createTable_eq_bind, hok]
    exact unconditional_statements primaryKeyName

def sharedKey : List TableColumn :=
  [{ column := { name := "seq", kind := .unsized .int64 }, primaryKey := true, identity := true },
   { column := { name := "code", kind := .unsized .string }, primaryKey := true }]

theorem createTable_sharedKey :
    checkIdentityColumns "t" sharedKey =
        .error (.precondition (.identityNotSoleKey "t" "seq")) ∧
      dialect.createTable "t" sharedKey "PK_t" =
        .error (.precondition (.identityNotSoleKey "t" "seq")) := by
  have hrefused : checkIdentityColumns "t" sharedKey =
      .error (.precondition (.identityNotSoleKey "t" "seq")) := rfl
  exact ⟨hrefused, ((checkIdentityColumns_iff "t" sharedKey).2.2.1 _ hrefused).2 "PK_t"⟩

/-- A counter that is the primary key, and a second one behind it. -/
def twoCounters : List TableColumn :=
  [{ column := { name := "a", kind := .unsized .int32 }, primaryKey := true, identity := true },
   { column := { name := "b", kind := .unsized .int32 }, identity := true }]

/-- The second counter passes the check although it is in no key. -/
theorem not_identityIsKey_of_accepted :
    ¬∀ (table : String) (columns : List TableColumn),
      checkIdentityColumns table columns = .ok () ↔ IdentityIsKey columns := by
  intro h
  have hrule : IdentityIsKey twoCounters := (h "t" twoCounters).mp rfl
  exact absurd (hrule { column := { name := "b", kind := .unsized .int32 }, identity := true }
    (by decide) rfl) (by decide)

end SchemaDdl.Sqlite
