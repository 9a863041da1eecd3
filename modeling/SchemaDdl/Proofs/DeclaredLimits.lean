import SchemaDdl.Proofs.DeclaredSize

/-!
# Limits of accepted kinds

A type mapper keeps a size only below the limits of its own tiers and a scale only beside a size.
`Builtin.exists_type_with_limits` says that the capability tables leave it no kind of which it would
lose a limit: an accepted kind has a type, its type declares every limit of the kind, and kinds of
one tag with different limits have different types. Only the long texts of Informix all become
`TEXT`.
-/

namespace SchemaDdl

namespace Builtin

/-- Whether the dialect stores the texts of this kind in a type without a size. -/
def IsLongText (b : Builtin) (k : SizedKind) : Prop := b = informix ∧ Informix.IsLongText k

/-- What a type says about the limits of a kind. -/
structure TypeOfLimits (b : Builtin) (k : SizedKind) (type : String) : Prop where
  /-- A positive size is declared, and with it the scale of a decimal, also if it is zero. -/
  declared : ∀ n, k.positiveSize = some n → ¬b.IsLongText k → Declares type (some n) k.typeScale
  longText : b.IsLongText k → type = "TEXT"
  /-- A positive scale can be read off the type. -/
  scale : ∀ s, k.positiveScale = some s → declaredScale? type = some s

variable {b : Builtin} {column : String} {k k' : SizedKind} {usage : Usage} {w : Option String}
  {type : String}

theorem kind_of_positiveScale {s : Nat} (h : b.capabilities.validate column k usage = .ok w)
    (hs : k.positiveScale = some s) : k.kind = .decimal := by
  by_contra hkind
  have hnone : k.positiveScale = none :=
    CapabilityTable.positiveScale_eq_none h fun c hc hck => entry_scaled b c hc (hck ▸ hkind)
  rw [hs] at hnone
  cases hnone

theorem typeOfLimits (h : b.capabilities.validate column k usage = .ok w)
    (ht : b.dialect.typeClause k = .ok type) : b.TypeOfLimits k type where
  declared := by
    intro n hn hlong
    have hdeclares := declares_typeClause h (mem_sizedKinds h hn) hlong ht
    rw [hn] at hdeclares
    exact hdeclares
  longText := by
    rintro ⟨rfl, hlong⟩
    have htext : Except.ok type = .ok "TEXT" :=
      ht.symm.trans (Informix.typeClause_of_isLongText hlong)
    exact Except.ok.inj htext
  scale := by
    intro s hs
    rw [declaredScale?_typeClause h (kind_of_positiveScale h hs) ht]
    exact Option.eq_some_of_filter_eq_some hs

namespace TypeOfLimits

variable {n n' : Nat}

/-- Types with a size differ from `TEXT` and from one another. -/
theorem size_eq_or (h : b.TypeOfLimits k type) (h' : b.TypeOfLimits k' type)
    (hn : k.positiveSize = some n) (hn' : k'.positiveSize = some n') :
    n = n' ∨ b.IsLongText k ∧ b.IsLongText k' := by
  have htext : declaredSize? "TEXT" = none := declaredSize?_keyword (by decide)
  by_cases hlong : b.IsLongText k <;> by_cases hlong' : b.IsLongText k'
  · exact .inr ⟨hlong, hlong'⟩
  · have hread := (h'.declared n' hn' hlong').declaredSize?_eq
    rw [h.longText hlong, htext] at hread
    cases hread
  · have hread := (h.declared n hn hlong).declaredSize?_eq
    rw [h'.longText hlong', htext] at hread
    cases hread
  · have hread := (h.declared n hn hlong).declaredSize?_eq
    rw [(h'.declared n' hn' hlong').declaredSize?_eq] at hread
    exact .inl (Option.some.inj hread).symm

end TypeOfLimits

/-- An accepted kind has a type that declares its limits, and from the type the limits can be told
among all accepted kinds of the same tag. -/
theorem exists_type_with_limits (h : b.capabilities.validate column k usage = .ok w) :
    ∃ type, b.dialect.typeClause k = .ok type ∧ b.TypeOfLimits k type ∧
      ∀ column' k' usage' w', b.capabilities.validate column' k' usage' = .ok w' →
        k'.kind = k.kind → b.dialect.typeClause k' = .ok type →
        (∀ n n', k.positiveSize = some n → k'.positiveSize = some n' →
          n = n' ∨ b.IsLongText k ∧ b.IsLongText k') ∧
        (k.kind = .decimal → k.scale = k'.scale) := by
  obtain ⟨type, ht⟩ := typeClause_of_accepted h
  refine ⟨type, ht, typeOfLimits h ht, ?_⟩
  intro column' k' usage' w' h' hkind ht'
  refine ⟨fun n n' hn hn' => (typeOfLimits h ht).size_eq_or (typeOfLimits h' ht') hn hn', ?_⟩
  intro hdecimal
  rw [← declaredScale?_typeClause h hdecimal ht,
    ← declaredScale?_typeClause h' (hkind.trans hdecimal) ht']

/-- A price in whole units: its scale is zero and declared all the same. -/
theorem exists_type_of_price :
    SqlServer.capabilities.validate "price" (.decimal 19 0) ⟨true, false⟩ = .ok none ∧
      Declares "DECIMAL(19, 0)" (some 19) (some 0) ∧
      ∀ column k usage w, SqlServer.capabilities.validate column k usage = .ok w →
        k.kind = .decimal → SqlServer.typeClause k = .ok "DECIMAL(19, 0)" → k.scale = some 0 := by
  have haccepted : sqlServer.capabilities.validate "price" (.decimal 19 0) ⟨true, false⟩ =
      .ok none := rfl
  obtain ⟨type, ht, hlimits, hdistinct⟩ := exists_type_with_limits haccepted
  cases ht
  have hshort : ¬sqlServer.IsLongText (.decimal 19 0) := fun hlong => nomatch hlong.1
  refine ⟨haccepted, hlimits.declared 19 rfl hshort, ?_⟩
  intro column k usage w h hkind htype
  exact ((hdistinct column k usage w h hkind htype).2 rfl).symm

end Builtin

end SchemaDdl
