import SchemaDdl.Plan
import SchemaDdl.Proofs.Builtin

/-!
# Kinds that capability tables accept

A capability table and a type mapper are two descriptions of a dialect. `typeClause_of_accepted` and
`identityClause_of_accepted` say that they agree where it matters for rendering: a kind that the
table accepts has a type, and one that it accepts for an identity column has an identity type.
-/

namespace SchemaDdl

/-! ## Acceptance comes from an entry -/

/-- An entry accepts a kind if it accepts its size, its scale and the roles. -/
theorem Capability.check_eq_ok_iff {c : Capability} {k : SizedKind} {usage : Usage} :
    c.check k usage = .ok () ↔
      c.checkSize k = .ok () ∧ c.checkScale k = .ok () ∧ c.checkUsage usage = .ok () := by
  unfold check
  cases hs : c.checkSize k with
  | error e => exact iff_of_false nofun (fun h => nomatch h.1)
  | ok _ =>
    cases hc : c.checkScale k with
    | error e => exact iff_of_false nofun (fun h => nomatch h.2.1)
    | ok _ => exact ⟨fun h => ⟨rfl, rfl, h⟩, fun h => h.2.2⟩

theorem Capability.isOk_check (c : Capability) (k : SizedKind) (usage : Usage) :
    (c.check k usage).isOk =
      ((c.checkSize k).isOk && ((c.checkScale k).isOk && (c.checkUsage usage).isOk)) := by
  unfold check
  cases c.checkSize k with
  | error e => rfl
  | ok _ => cases c.checkScale k <;> rfl

theorem Capability.checkSize_eq_ok_iff {c : Capability} {k : SizedKind} :
    c.checkSize k = .ok () ↔
      (c.maxSize = none ∧ k.positiveSize = none) ∨
        ∃ max n, c.maxSize = some max ∧ k.positiveSize = some n ∧ n ≤ max := by
  unfold checkSize
  cases c.maxSize <;> cases k.positiveSize <;> simp

theorem Capability.checkScale_eq_ok_iff {c : Capability} {k : SizedKind} :
    c.checkScale k = .ok () ↔
      k.positiveScale = none ∨
        ∃ max n, c.maxScale = some max ∧ k.positiveScale = some n ∧ n ≤ max := by
  unfold checkScale
  cases c.maxScale <;> cases k.positiveScale <;> simp

/-- An entry that accepts an identity column is one for identity columns. -/
theorem Capability.identity_of_check {c : Capability} {k : SizedKind} {usage : Usage}
    (h : c.check k usage = .ok ()) (hi : usage.identity = true) : c.identity = true := by
  obtain ⟨-, -, hu⟩ := check_eq_ok_iff.mp h
  unfold checkUsage at hu
  split at hu
  · cases hu
  · split at hu
    · cases hu
    · simp_all

namespace CapabilityTable

theorem isOk_firstAccepting (k : SizedKind) (usage : Usage) (entries : List Capability)
    (reason : Rejection) :
    (firstAccepting k usage entries reason).isOk = entries.any fun c => (c.check k usage).isOk := by
  induction entries generalizing reason with
  | nil => rfl
  | cons c rest ih =>
    rw [firstAccepting, List.any_cons]
    cases hc : c.check k usage with
    | ok _ => rfl
    | error e => exact ih e

/-- A table accepts what one of its entries for the kind accepts. -/
theorem isOk_validate (t : CapabilityTable) (column : String) (k : SizedKind) (usage : Usage) :
    (t.validate column k usage).isOk =
      (t.entriesFor k.kind).any fun c => (c.check k usage).isOk := by
  rw [← isOk_firstAccepting k usage (t.entriesFor k.kind) .undeclared, validate]
  cases firstAccepting k usage (t.entriesFor k.kind) .undeclared <;> rfl

theorem exists_entry_of_validate {t : CapabilityTable} {column : String} {k : SizedKind}
    {usage : Usage} {w : Option String} (h : t.validate column k usage = .ok w) :
    ∃ c ∈ t.entries, c.kind = k.kind ∧ c.check k usage = .ok () := by
  have hany := isOk_validate t column k usage
  rw [h] at hany
  obtain ⟨c, hmem, hc⟩ := List.any_eq_true.mp hany.symm
  simp only [entriesFor, List.mem_filter, beq_iff_eq] at hmem
  cases hcheck : c.check k usage with
  | ok _ => exact ⟨c, hmem.1, hmem.2, hcheck⟩
  | error e =>
    rw [hcheck] at hc
    cases hc

end CapabilityTable

/-! ## Acceptance reaches every column -/

namespace Change

/-- A change that is valid defines only columns that the table accepts. -/
theorem accepted_of_validate {change : Change} {t : CapabilityTable} {ws : List String}
    (h : change.validate t = .ok ws) {column : Column} {usage : Usage}
    (hmem : (column, usage) ∈ change.definedColumns) :
    ∃ w, t.validate column.name column.kind usage = .ok w := by
  obtain ⟨ws', hchecked, -⟩ := ok_of_bind_ok h
  obtain ⟨advice, -, hcolumn⟩ := exists_mem_of_mapM_ok hchecked hmem
  obtain ⟨w, hw, -⟩ := ok_of_bind_ok hcolumn
  exact ⟨w, hw⟩

end Change

/-! ## Accepted kinds have types -/

namespace Builtin

/-- The kinds for which the dialect has no type. -/
def unmappedKinds : Builtin → List Kind
  | informix => [.ansiString, .ansiStringFixedLength, .currency, .dateTime2, .dateTimeOffset, .xml]
  | postgresql => [.sByte, .uInt16, .uInt32, .uInt64]
  | sqlite => []
  | sqlServer => [.sByte, .uInt16, .uInt32, .uInt64, .varNumeric]

/-- The kinds whose values the server can assign. -/
def identityKinds : Builtin → List Kind
  | informix => [.int32, .int64]
  | postgresql => [.int16, .int32, .int64]
  | sqlite => [.int32, .int64]
  | sqlServer => [.byte, .int16, .int32, .int64, .decimal]

theorem entry_kind_mapped (b : Builtin) :
    ∀ c ∈ b.capabilities.entries, c.kind ∉ b.unmappedKinds := by
  cases b <;> decide

theorem entry_kind_identity (b : Builtin) :
    ∀ c ∈ b.capabilities.entries, c.identity = true → c.kind ∈ b.identityKinds := by
  cases b <;> decide

theorem typeClause_of_mapped (b : Builtin) (k : SizedKind) (h : k.kind ∉ b.unmappedKinds) :
    ∃ type, b.dialect.typeClause k = .ok type := by
  obtain ⟨kind, size, scale⟩ := k
  cases b <;> cases kind <;> first | exact ⟨_, rfl⟩ | simp [unmappedKinds] at h

theorem identityClause_of_identityKind (b : Builtin) (k : SizedKind)
    (h : k.kind ∈ b.identityKinds) : ∃ type, b.dialect.identityClause k = .ok type := by
  obtain ⟨kind, size, scale⟩ := k
  cases b <;> cases kind <;> first | exact ⟨_, rfl⟩ | simp [identityKinds] at h

/-- A kind that the table accepts has a type. -/
theorem typeClause_of_accepted {b : Builtin} {column : String} {k : SizedKind} {usage : Usage}
    {w : Option String} (h : b.capabilities.validate column k usage = .ok w) :
    ∃ type, b.dialect.typeClause k = .ok type := by
  obtain ⟨c, hmem, hkind, _⟩ := CapabilityTable.exists_entry_of_validate h
  apply typeClause_of_mapped
  rw [← hkind]
  exact entry_kind_mapped b c hmem

/-- A kind that the table accepts for an identity column has an identity type. -/
theorem identityClause_of_accepted {b : Builtin} {column : String} {k : SizedKind} {usage : Usage}
    {w : Option String} (h : b.capabilities.validate column k usage = .ok w)
    (hi : usage.identity = true) : ∃ type, b.dialect.identityClause k = .ok type := by
  obtain ⟨c, hmem, hkind, hcheck⟩ := CapabilityTable.exists_entry_of_validate h
  apply identityClause_of_identityKind
  rw [← hkind]
  exact entry_kind_identity b c hmem (Capability.identity_of_check hcheck hi)

end Builtin

end SchemaDdl
