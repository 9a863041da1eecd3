import SchemaDdl.Proofs.DeclaredSize

/-!
# Verdicts about the roles of a column

A capability table sees the kind of a column, the server sees only the type that the kind becomes.
`verdict_eq_iff` says when the table judges two kinds alike that become the same type: in every
role, but for primary keys on Informix, where a long text may be in a key and a text without a size
may not although both become `TEXT`.
-/

namespace SchemaDdl

/-! ## What a verdict depends on -/

section

variable {k₁ k₂ : SizedKind} (hkind : k₁.kind = k₂.kind)
  (hsize : k₁.positiveSize = k₂.positiveSize) (hscale : k₁.positiveScale = k₂.positiveScale)

include hsize hscale

theorem Capability.check_congr (c : Capability) (usage : Usage) :
    c.check k₁ usage = c.check k₂ usage := by
  unfold check checkSize checkScale
  rw [hsize, hscale]

include hkind

theorem CapabilityTable.isOk_validate_congr (t : CapabilityTable) (column : String)
    (usage : Usage) :
    (t.validate column k₁ usage).isOk = (t.validate column k₂ usage).isOk := by
  have hcheck : ∀ c : Capability, c.check k₁ usage = c.check k₂ usage := fun c =>
    c.check_congr hsize hscale usage
  rw [isOk_validate, isOk_validate, hkind]
  simp only [hcheck]

end

/-! ## Texts of Informix -/

namespace Informix

variable {column : String} {k : SizedKind} {usage : Usage} {w : Option String}

theorem isSome_positiveSize_of_isLongText (h : IsLongText k) : k.positiveSize.isSome = true := by
  obtain ⟨-, n, hn, -⟩ := h
  rw [hn]
  rfl

/-- A text with a size may be in a primary key, one without a size has no role. -/
theorem isOk_validate_text (h : capabilities.validate column k {} = .ok w)
    (hkind : k.kind = .string) (usage : Usage) :
    (capabilities.validate column k usage).isOk =
      (!usage.identity && (k.positiveSize.isSome || !usage.primaryKey)) := by
  have hentries : capabilities.entriesFor k.kind =
      [((Capability.of .string).upToSize 65535).forPrimaryKey, .of .string] := by
    rw [hkind]
    rfl
  have hle : ∀ n ∈ k.positiveSize, n ≤ 65535 :=
    CapabilityTable.positiveSize_le h (by rw [hkind]; decide)
  have hscale : k.positiveScale = none :=
    CapabilityTable.positiveScale_eq_none h (by rw [hkind]; decide)
  rw [CapabilityTable.isOk_validate, hentries]
  simp only [List.any_cons, List.any_nil, Capability.isOk_check, Capability.checkSize,
    Capability.checkScale, hscale]
  obtain ⟨primaryKey, identity⟩ := usage
  -- Exactly one of the two entries takes the size, and its roles decide.
  cases hsize : k.positiveSize with
  | none => cases primaryKey <;> cases identity <;> rfl
  | some n =>
    have hmax : ¬65535 < n := Nat.not_lt.mpr (hle n hsize)
    simp only [Capability.forPrimaryKey, Capability.upToSize, Capability.of, hmax, if_false]
    cases primaryKey <;> cases identity <;> rfl

end Informix

/-! ## Kinds with the same type -/

namespace Builtin

section

variable {column : String} {k₁ k₂ : SizedKind} {w₁ w₂ : Option String}

/-- Beside a long text, another kind of the same type has no size, and the verdicts differ about
primary keys. -/
theorem verdict_eq_iff_of_isLongText (hkind : k₁.kind = k₂.kind)
    (h₁ : informix.capabilities.validate column k₁ {} = .ok w₁)
    (h₂ : informix.capabilities.validate column k₂ {} = .ok w₂)
    (ht : informix.dialect.typeClause k₁ = informix.dialect.typeClause k₂)
    (hlong₁ : Informix.IsLongText k₁) (hlong₂ : ¬Informix.IsLongText k₂) (usage : Usage) :
    (informix.capabilities.validate column k₁ usage).isOk =
      (informix.capabilities.validate column k₂ usage).isOk ↔ usage ≠ ⟨true, false⟩ := by
  have hstring₁ : k₁.kind = .string := hlong₁.1
  have hstring₂ : k₂.kind = .string := hkind ▸ hstring₁
  have htext : informix.dialect.typeClause k₂ = .ok "TEXT" :=
    ht.symm.trans (Informix.typeClause_of_isLongText hlong₁)
  -- The text of its type declares no size, and only long texts are stored without theirs.
  have hsize₂ : k₂.positiveSize = none := by
    rw [← declaredSize?_typeClause h₂ (by rw [hstring₂]; decide) (fun h => hlong₂ h.2) htext]
    exact declaredSize?_keyword (by decide)
  have hverdict₁ := Informix.isOk_validate_text h₁ hstring₁ usage
  have hverdict₂ := Informix.isOk_validate_text h₂ hstring₂ usage
  rw [Informix.isSome_positiveSize_of_isLongText hlong₁] at hverdict₁
  rw [hsize₂] at hverdict₂
  change (Informix.capabilities.validate column k₁ usage).isOk =
    (Informix.capabilities.validate column k₂ usage).isOk ↔ _
  rw [hverdict₁, hverdict₂]
  obtain ⟨primaryKey, identity⟩ := usage
  cases primaryKey <;> cases identity <;> decide

/-- Two kinds that a table accepts and that become the same type are judged alike in every role,
but for a long text and a text without a size, which differ where a primary key without identity is
asked for. -/
theorem verdict_eq_iff {b : Builtin} {type : String} (hkind : k₁.kind = k₂.kind)
    (h₁ : b.capabilities.validate column k₁ {} = .ok w₁)
    (h₂ : b.capabilities.validate column k₂ {} = .ok w₂)
    (ht₁ : b.dialect.typeClause k₁ = .ok type) (ht₂ : b.dialect.typeClause k₂ = .ok type)
    (usage : Usage) :
    (b.capabilities.validate column k₁ usage).isOk =
        (b.capabilities.validate column k₂ usage).isOk ↔
      ¬(b = informix ∧ usage = ⟨true, false⟩ ∧
        (Informix.IsLongText k₁ ↔ ¬Informix.IsLongText k₂)) := by
  by_cases hlong : b = informix ∧ (Informix.IsLongText k₁ ∨ Informix.IsLongText k₂)
  · obtain ⟨rfl, hlong⟩ := hlong
    by_cases hlong₁ : Informix.IsLongText k₁
    · by_cases hlong₂ : Informix.IsLongText k₂
      · have hverdict : (Informix.capabilities.validate column k₁ usage).isOk =
            (Informix.capabilities.validate column k₂ usage).isOk := by
          rw [Informix.isOk_validate_text h₁ hlong₁.1, Informix.isOk_validate_text h₂ hlong₂.1,
            Informix.isSome_positiveSize_of_isLongText hlong₁,
            Informix.isSome_positiveSize_of_isLongText hlong₂]
        exact iff_of_true hverdict fun h => h.2.2.mp hlong₁ hlong₂
      · rw [verdict_eq_iff_of_isLongText hkind h₁ h₂ (ht₁.trans ht₂.symm) hlong₁ hlong₂]
        simp [hlong₁, hlong₂]
    · have hlong₂ : Informix.IsLongText k₂ := hlong.resolve_left hlong₁
      rw [eq_comm,
        verdict_eq_iff_of_isLongText hkind.symm h₂ h₁ (ht₂.trans ht₁.symm) hlong₂ hlong₁]
      simp [hlong₁, hlong₂]
  · have hsize : k₁.positiveSize = k₂.positiveSize :=
      positiveSize_eq_of_typeClause_eq hkind h₁ h₂ ht₁ ht₂
        (fun h => hlong ⟨h.1, .inl h.2⟩) (fun h => hlong ⟨h.1, .inr h.2⟩)
    have hscale : k₁.positiveScale = k₂.positiveScale :=
      positiveScale_eq_of_typeClause_eq hkind h₁ h₂ ht₁ ht₂
    refine iff_of_true (CapabilityTable.isOk_validate_congr hkind hsize hscale _ _ _) ?_
    rintro ⟨hb, -, hdiffer⟩
    have hlong₁ : ¬Informix.IsLongText k₁ := fun h => hlong ⟨hb, .inl h⟩
    exact hlong ⟨hb, .inr (not_not.mp fun h => hlong₁ (hdiffer.mpr h))⟩

end

theorem verdict_eq_longTexts :
    informix.dialect.typeClause (.sized .string 20000) = .ok "TEXT" ∧
      informix.dialect.typeClause (.sized .string 30000) = .ok "TEXT" ∧
      (informix.capabilities.validate "body" (.sized .string 20000) ⟨true, false⟩).isOk =
        (informix.capabilities.validate "body" (.sized .string 30000) ⟨true, false⟩).isOk := by
  have hkind : (SizedKind.sized .string 20000).kind = (SizedKind.sized .string 30000).kind := rfl
  refine ⟨rfl, rfl, (verdict_eq_iff hkind rfl rfl rfl rfl ⟨true, false⟩).mpr ?_⟩
  rintro ⟨-, -, hdiffer⟩
  exact hdiffer.mp ⟨rfl, 20000, rfl, by decide⟩ ⟨rfl, 30000, rfl, by decide⟩

/-- A text without a size is refused in a primary key, and one of the same type is not. -/
theorem not_verdict_eq_of_text :
    informix.capabilities.validate "body" (.unsized .string) {} = .ok none ∧
      informix.capabilities.validate "body" (.sized .string 20000) {} = .ok none ∧
      informix.dialect.typeClause (.unsized .string) = .ok "TEXT" ∧
      informix.dialect.typeClause (.sized .string 20000) = .ok "TEXT" ∧
      informix.capabilities.validate "body" (.unsized .string) ⟨true, false⟩ =
        .error (.kindNotSupported "body" .string "informix" .notForPrimaryKey) ∧
      informix.capabilities.validate "body" (.sized .string 20000) ⟨true, false⟩ = .ok none :=
  ⟨rfl, rfl, rfl, rfl, rfl, rfl⟩

end Builtin

end SchemaDdl
