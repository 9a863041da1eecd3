import Mathlib.Data.List.TakeWhile
import SchemaDdl.Proofs.Accepted

/-!
# Sizes that types declare

A type declares size and scale in brackets behind its keyword. `Declares` says how they are written,
and `declaredSize?` and `declaredScale?` read them off the text of a type. Main statements:
`Builtin.declares_typeClause`, which says that the type of an accepted kind declares the size and
the scale of the kind, but for the long texts of Informix, and `Builtin.declaredSize?_typeClause`
and `Builtin.declaredScale?_typeClause`, which read them back.
-/

namespace SchemaDdl

/-! ## Reading a type -/

/-- The number that a text begins with. -/
def leadingNumber? (cs : List Char) : Option Nat :=
  match cs.takeWhile (·.isDigit) with
  | [] => none
  | digits => some (Nat.ofDigitChars 10 digits 0)

/-- The number behind the opening bracket of a type. -/
def declaredSize? (type : String) : Option Nat :=
  leadingNumber? ((type.toList.dropWhile (· ≠ '(')).drop 1)

/-- The number behind the comma in a type. -/
def declaredScale? (type : String) : Option Nat :=
  leadingNumber? ((type.toList.dropWhile (· ≠ ',')).drop 2)

theorem isDigit_of_mem_repr {n : Nat} {c : Char} (h : c ∈ n.repr.toList) : c.isDigit = true := by
  rw [Nat.toList_repr] at h
  exact Nat.isDigit_of_mem_toDigits (by decide) (by decide) h

theorem leadingNumber?_repr (n : Nat) {c : Char} (hc : c.isDigit = false) (rest : List Char) :
    leadingNumber? (n.repr.toList ++ c :: rest) = some n := by
  have htake : (n.repr.toList ++ c :: rest).takeWhile (·.isDigit) = Nat.toDigits 10 n := by
    rw [List.takeWhile_append_of_pos fun d hd => isDigit_of_mem_repr hd, List.takeWhile_cons, hc]
    simp
  unfold leadingNumber?
  rw [htake]
  split
  · next hnil => exact absurd hnil Nat.toDigits_ne_nil
  · rw [Nat.ofDigitChars_toDigits (by decide) (by decide)]

theorem dropWhile_ne_append {c : Char} {before : List Char} (h : c ∉ before) (after : List Char) :
    (before ++ c :: after).dropWhile (· ≠ c) = c :: after := by
  rw [List.dropWhile_append_of_pos]
  · simp
  · intro d hd
    exact decide_eq_true fun heq => h (heq ▸ hd)

theorem dropWhile_ne_eq_nil {c : Char} {cs : List Char} (h : c ∉ cs) :
    cs.dropWhile (· ≠ c) = [] := by
  rw [List.dropWhile_eq_nil_iff]
  intro d hd
  exact decide_eq_true fun heq => h (heq ▸ hd)

section

variable {keyword : String} (hkeyword : '(' ∉ keyword.toList)

include hkeyword

theorem declaredSize?_sized (n : Nat) {c : Char} (hc : c.isDigit = false) {rest : String}
    (hrest : rest.toList.head? = some c) :
    declaredSize? (keyword ++ "(" ++ toString n ++ rest) = some n := by
  obtain ⟨later, hlater⟩ := List.head?_eq_some_iff.mp hrest
  have htext : (keyword ++ "(" ++ toString n ++ rest).toList =
      keyword.toList ++ '(' :: (n.repr.toList ++ c :: later) := by
    simp [String.toList_append, hlater]
  unfold declaredSize?
  rw [htext, dropWhile_ne_append hkeyword]
  exact leadingNumber?_repr n hc later

theorem declaredSize?_keyword : declaredSize? keyword = none := by
  unfold declaredSize?
  rw [dropWhile_ne_eq_nil hkeyword]
  rfl

theorem declaredSize?_max : declaredSize? (keyword ++ "(MAX)") = none := by
  have htext : (keyword ++ "(MAX)").toList = keyword.toList ++ '(' :: "MAX)".toList := by
    simp [String.toList_append]
  unfold declaredSize?
  rw [htext, dropWhile_ne_append hkeyword]
  rfl

end

theorem declaredScale?_scaled {before : String} (hbefore : ',' ∉ before.toList) (n : Nat) :
    declaredScale? (before ++ ", " ++ toString n ++ ")") = some n := by
  have htext : (before ++ ", " ++ toString n ++ ")").toList =
      before.toList ++ ',' :: ' ' :: (n.repr.toList ++ [')']) := by
    simp [String.toList_append]
  unfold declaredScale?
  rw [htext, dropWhile_ne_append hbefore]
  exact leadingNumber?_repr n (by decide) []

theorem declaredScale?_unscaled {type : String} (h : ',' ∉ type.toList) :
    declaredScale? type = none := by
  unfold declaredScale?
  rw [dropWhile_ne_eq_nil h]
  rfl

/-! ## Writing limits -/

/-- A word of capital letters. -/
def IsKeyword (s : String) : Prop := s ≠ "" ∧ s.toList.all Char.isUpper = true

instance : DecidablePred IsKeyword := fun _ => inferInstanceAs (Decidable (_ ∧ _))

/-- The text is a type that declares this size and this scale: behind a keyword, in brackets and in
decimal digits. A type without a size is the keyword alone or says `MAX` in its place. -/
inductive Declares : String → (size scale : Option Nat) → Prop
  | keyword {keyword : String} (h : IsKeyword keyword) : Declares keyword none none
  | max {keyword : String} (h : IsKeyword keyword) : Declares (keyword ++ "(MAX)") none none
  | size {keyword : String} (h : IsKeyword keyword) (n : Nat) :
    Declares (keyword ++ "(" ++ toString n ++ ")") (some n) none
  | sizeAndScale {keyword : String} (h : IsKeyword keyword) (n s : Nat) :
    Declares (keyword ++ "(" ++ toString n ++ ", " ++ toString s ++ ")") (some n) (some s)

theorem IsKeyword.not_mem {keyword : String} (h : IsKeyword keyword) {c : Char}
    (hc : c.isUpper = false) : c ∉ keyword.toList := fun hmem =>
  Bool.false_ne_true (hc.symm.trans (List.all_eq_true.mp h.2 c hmem))

theorem comma_not_mem_size {keyword : String} (h : IsKeyword keyword) (n : Nat) :
    ',' ∉ (keyword ++ "(" ++ toString n).toList := by
  have hkeyword : ',' ∉ keyword.toList := h.not_mem (by decide)
  have hdigits : ',' ∉ n.repr.toList := fun hmem => absurd (isDigit_of_mem_repr hmem) (by decide)
  simpa [String.toList_append, hkeyword] using hdigits

namespace Declares

variable {type : String} {size scale : Option Nat}

/-- The size is read back from the type. -/
theorem declaredSize?_eq (h : Declares type size scale) : declaredSize? type = size := by
  cases h with
  | keyword h => exact declaredSize?_keyword (h.not_mem (by decide))
  | max h => exact declaredSize?_max (h.not_mem (by decide))
  | size h n => exact declaredSize?_sized (h.not_mem (by decide)) n (c := ')') (by decide) rfl
  | @sizeAndScale keyword h n s =>
    -- The number ends at the comma here, and the bracket comes behind the scale.
    have hread : declaredSize? (keyword ++ "(" ++ toString n ++ (", " ++ toString s ++ ")")) =
        some n := declaredSize?_sized (h.not_mem (by decide)) n (c := ',') (by decide) (by simp)
    rw [← String.append_assoc, ← String.append_assoc] at hread
    exact hread

/-- The scale is read back from the type. -/
theorem declaredScale?_eq (h : Declares type size scale) : declaredScale? type = scale := by
  cases h with
  | keyword h => exact declaredScale?_unscaled (h.not_mem (by decide))
  | @max keyword h =>
    apply declaredScale?_unscaled
    rw [String.toList_append, List.mem_append]
    exact fun hmem => hmem.elim (h.not_mem (by decide)) (by decide)
  | size h n =>
    apply declaredScale?_unscaled
    rw [String.toList_append, List.mem_append]
    exact fun hmem => hmem.elim (comma_not_mem_size h n) (by decide)
  | sizeAndScale h n s => exact declaredScale?_scaled (comma_not_mem_size h n) s

end Declares

/-! ## Clauses with limits -/

/-- The scale that a type has to declare: only decimals have one. -/
def SizedKind.typeScale (k : SizedKind) : Option Nat := if k.kind = .decimal then k.scale else none

section

variable {keyword : String} (hkeyword : IsKeyword keyword) (k : SizedKind)

include hkeyword

theorem declares_sizedClause : Declares (k.sizedClause keyword) k.positiveSize none := by
  unfold SizedKind.sizedClause
  cases k.positiveSize with
  | none => exact .keyword hkeyword
  | some n => exact .size hkeyword n

/-- Without a size a decimal would lose its scale. -/
theorem declares_decimalClause {p : Nat} (hp : k.positiveSize = some p) :
    Declares (k.decimalClause keyword) k.positiveSize k.scale := by
  unfold SizedKind.decimalClause
  rw [hp]
  cases k.scale with
  | none => exact .size hkeyword p
  | some s => exact .sizeAndScale hkeyword p s

/-- Above its limit a type would lose its size. -/
theorem SqlServer.declares_variableClause {limit : Nat}
    (hlimit : ∀ n ∈ k.positiveSize, n ≤ limit) :
    Declares (variableClause k keyword limit) k.positiveSize none := by
  unfold variableClause
  cases hk : k.positiveSize with
  | none => exact .max hkeyword
  | some n =>
    simp only [hlimit n hk, if_true]
    exact .size hkeyword n

end

theorem declares_varchar (k : SizedKind) :
    Declares (match k.positiveSize with
      | some n => s!"VARCHAR({n})"
      | none => "TEXT") k.positiveSize none := by
  cases k.positiveSize with
  | none => exact .keyword (by decide)
  | some n => exact .size (show IsKeyword "VARCHAR" by decide) n

/-! ## Sizes that tables accept -/

namespace CapabilityTable

variable {t : CapabilityTable} {column : String} {k : SizedKind} {usage : Usage}
  {w : Option String}

theorem exists_limits_of_validate (h : t.validate column k usage = .ok w) :
    ∃ c ∈ t.entries, c.kind = k.kind ∧
      ((c.maxSize = none ∧ k.positiveSize = none) ∨
        ∃ max n, c.maxSize = some max ∧ k.positiveSize = some n ∧ n ≤ max) ∧
      (k.positiveScale = none ∨
        ∃ max n, c.maxScale = some max ∧ k.positiveScale = some n ∧ n ≤ max) := by
  obtain ⟨c, hmem, hkind, hcheck⟩ := exists_entry_of_validate h
  obtain ⟨hsize, hscale, -⟩ := Capability.check_eq_ok_iff.mp hcheck
  exact ⟨c, hmem, hkind, Capability.checkSize_eq_ok_iff.mp hsize,
    Capability.checkScale_eq_ok_iff.mp hscale⟩

theorem positiveSize_eq_none (h : t.validate column k usage = .ok w)
    (hentries : ∀ c ∈ t.entries, c.kind = k.kind → c.maxSize = none) :
    k.positiveSize = none := by
  obtain ⟨c, hmem, hkind, hsize, -⟩ := exists_limits_of_validate h
  rcases hsize with ⟨-, hnone⟩ | ⟨max, n, hmax, -⟩
  · exact hnone
  · rw [hentries c hmem hkind] at hmax
    cases hmax

theorem exists_positiveSize (h : t.validate column k usage = .ok w)
    (hentries : ∀ c ∈ t.entries, c.kind = k.kind → c.maxSize ≠ none) :
    ∃ n, k.positiveSize = some n := by
  obtain ⟨c, hmem, hkind, hsize, -⟩ := exists_limits_of_validate h
  rcases hsize with ⟨hmax, -⟩ | ⟨max, n, -, hn, -⟩
  · exact absurd hmax (hentries c hmem hkind)
  · exact ⟨n, hn⟩

theorem positiveSize_le {limit : Nat} (h : t.validate column k usage = .ok w)
    (hentries : ∀ c ∈ t.entries, c.kind = k.kind → ∀ max ∈ c.maxSize, max ≤ limit) :
    ∀ n ∈ k.positiveSize, n ≤ limit := by
  obtain ⟨c, hmem, hkind, hsize, -⟩ := exists_limits_of_validate h
  intro n hn
  rcases hsize with ⟨-, hnone⟩ | ⟨max, n', hmax, hn', hle⟩
  · rw [hnone] at hn
    cases hn
  · rw [hn'] at hn
    cases hn
    exact hle.trans (hentries c hmem hkind max hmax)

theorem positiveScale_eq_none (h : t.validate column k usage = .ok w)
    (hentries : ∀ c ∈ t.entries, c.kind = k.kind → c.maxScale = none) :
    k.positiveScale = none := by
  obtain ⟨c, hmem, hkind, -, hscale⟩ := exists_limits_of_validate h
  rcases hscale with hnone | ⟨max, n, hmax, -⟩
  · exact hnone
  · rw [hentries c hmem hkind] at hmax
    cases hmax

end CapabilityTable

/-! ## Types of sized kinds -/

/-- The kinds that the capability table lists with a size. -/
def Builtin.sizedKinds : Builtin → List Kind
  | informix => [.decimal, .string, .stringFixedLength]
  | postgresql => [.ansiString, .ansiStringFixedLength, .decimal, .string, .stringFixedLength]
  | sqlite => [.ansiString, .decimal, .string]
  | sqlServer =>
    [.ansiString, .ansiStringFixedLength, .binary, .decimal, .string, .stringFixedLength]

/-- The texts that Informix stores in a type without a size. -/
def Informix.IsLongText (k : SizedKind) : Prop :=
  k.kind = .string ∧ ∃ n, k.positiveSize = some n ∧ 10000 ≤ n

section

variable {k : SizedKind} {type : String}

theorem Informix.typeClause_of_isLongText (h : IsLongText k) : typeClause k = .ok "TEXT" := by
  obtain ⟨hkind, n, hn, hle⟩ := h
  have hnvarchar : ¬n < 255 := by omega
  have hlvarchar : ¬n < 10000 := by omega
  unfold typeClause textClause
  rw [hkind, hn]
  simp [hnvarchar, hlvarchar]

theorem Informix.declares_textClause (hshort : ∀ n ∈ k.positiveSize, n < 10000) :
    Declares (textClause k) k.positiveSize none := by
  unfold textClause
  cases hk : k.positiveSize with
  | none => exact .keyword (by decide)
  | some n =>
    simp only [hshort n hk, if_true]
    split
    · exact .size (show IsKeyword "NVARCHAR" by decide) n
    · exact .size (show IsKeyword "LVARCHAR" by decide) n

theorem Informix.declares_typeClause (hk : k.kind ∈ Builtin.informix.sizedKinds)
    (hsized : k.kind = .decimal → ∃ p, k.positiveSize = some p) (hlong : ¬IsLongText k)
    (ht : typeClause k = .ok type) : Declares type k.positiveSize k.typeScale := by
  have hcases : k.kind = .decimal ∨ k.kind = .string ∨ k.kind = .stringFixedLength := by
    simpa [Builtin.sizedKinds] using hk
  unfold typeClause at ht
  unfold SizedKind.typeScale
  rcases hcases with hkind | hkind | hkind <;> rw [hkind] at ht ⊢ <;> cases ht
  · obtain ⟨p, hp⟩ := hsized hkind
    exact declares_decimalClause (by decide) k hp
  · refine declares_textClause fun n hn => ?_
    exact Nat.lt_of_not_le fun hle => hlong ⟨hkind, n, hn, hle⟩
  · exact declares_sizedClause (by decide) k

theorem Postgresql.declares_typeClause (hk : k.kind ∈ Builtin.postgresql.sizedKinds)
    (hsized : k.kind = .decimal → ∃ p, k.positiveSize = some p) (ht : typeClause k = .ok type) :
    Declares type k.positiveSize k.typeScale := by
  have hcases : k.kind = .ansiString ∨ k.kind = .ansiStringFixedLength ∨ k.kind = .decimal ∨
      k.kind = .string ∨ k.kind = .stringFixedLength := by
    simpa [Builtin.sizedKinds] using hk
  unfold typeClause at ht
  unfold SizedKind.typeScale
  rcases hcases with hkind | hkind | hkind | hkind | hkind <;> rw [hkind] at ht ⊢ <;> cases ht
  · exact declares_varchar k
  · exact declares_sizedClause (by decide) k
  · obtain ⟨p, hp⟩ := hsized hkind
    exact declares_decimalClause (by decide) k hp
  · exact declares_varchar k
  · exact declares_sizedClause (by decide) k

theorem Sqlite.declares_typeClause (hk : k.kind ∈ Builtin.sqlite.sizedKinds)
    (hsized : k.kind = .decimal → ∃ p, k.positiveSize = some p) :
    Declares (typeClause k) k.positiveSize k.typeScale := by
  have hcases : k.kind = .ansiString ∨ k.kind = .decimal ∨ k.kind = .string := by
    simpa [Builtin.sizedKinds] using hk
  unfold typeClause SizedKind.typeScale
  rcases hcases with hkind | hkind | hkind <;> rw [hkind]
  · exact declares_varchar k
  · obtain ⟨p, hp⟩ := hsized hkind
    exact declares_decimalClause (by decide) k hp
  · exact declares_varchar k

theorem SqlServer.declares_typeClause {column : String} {usage : Usage} {w : Option String}
    (h : capabilities.validate column k usage = .ok w)
    (hk : k.kind ∈ Builtin.sqlServer.sizedKinds)
    (hsized : k.kind = .decimal → ∃ p, k.positiveSize = some p) (ht : typeClause k = .ok type) :
    Declares type k.positiveSize k.typeScale := by
  have hcases : k.kind = .ansiString ∨ k.kind = .ansiStringFixedLength ∨ k.kind = .binary ∨
      k.kind = .decimal ∨ k.kind = .string ∨ k.kind = .stringFixedLength := by
    simpa [Builtin.sizedKinds] using hk
  unfold typeClause at ht
  unfold SizedKind.typeScale
  rcases hcases with hkind | hkind | hkind | hkind | hkind | hkind <;> rw [hkind] at ht ⊢ <;>
    cases ht
  · apply declares_variableClause (by decide)
    exact CapabilityTable.positiveSize_le h (by rw [hkind]; decide)
  · exact declares_sizedClause (by decide) k
  · apply declares_variableClause (by decide)
    exact CapabilityTable.positiveSize_le h (by rw [hkind]; decide)
  · obtain ⟨p, hp⟩ := hsized hkind
    exact declares_decimalClause (by decide) k hp
  · apply declares_variableClause (by decide)
    exact CapabilityTable.positiveSize_le h (by rw [hkind]; decide)
  · exact declares_sizedClause (by decide) k

end

/-! ## Types of accepted kinds -/

namespace Builtin

theorem entry_sized (b : Builtin) :
    ∀ c ∈ b.capabilities.entries, c.kind ∉ b.sizedKinds → c.maxSize = none := by
  cases b <;> decide

theorem entry_scaled (b : Builtin) :
    ∀ c ∈ b.capabilities.entries, c.kind ≠ .decimal → c.maxScale = none := by
  cases b <;> decide

theorem entry_decimal (b : Builtin) :
    ∀ c ∈ b.capabilities.entries, c.kind = .decimal → c.maxSize ≠ none := by
  cases b <;> decide

variable {b : Builtin} {column : String} {k : SizedKind} {usage : Usage} {w : Option String}
  {type : String}

theorem exists_positiveSize_of_decimal (h : b.capabilities.validate column k usage = .ok w)
    (hk : k.kind = .decimal) : ∃ p, k.positiveSize = some p :=
  CapabilityTable.exists_positiveSize h fun c hc hkind => entry_decimal b c hc (hkind.trans hk)

theorem mem_sizedKinds {n : Nat} (h : b.capabilities.validate column k usage = .ok w)
    (hn : k.positiveSize = some n) : k.kind ∈ b.sizedKinds := by
  by_contra hsized
  have hnone : k.positiveSize = none :=
    CapabilityTable.positiveSize_eq_none h fun c hc hck => entry_sized b c hc (hck ▸ hsized)
  rw [hn] at hnone
  cases hnone

theorem declares_typeClause (h : b.capabilities.validate column k usage = .ok w)
    (hk : k.kind ∈ b.sizedKinds) (hlong : ¬(b = informix ∧ Informix.IsLongText k))
    (ht : b.dialect.typeClause k = .ok type) : Declares type k.positiveSize k.typeScale := by
  have hsized : k.kind = .decimal → ∃ p, k.positiveSize = some p := exists_positiveSize_of_decimal h
  cases b with
  | informix => exact Informix.declares_typeClause hk hsized (fun hl => hlong ⟨rfl, hl⟩) ht
  | postgresql => exact Postgresql.declares_typeClause hk hsized ht
  | sqlite =>
    cases ht
    exact Sqlite.declares_typeClause hk hsized
  | sqlServer => exact SqlServer.declares_typeClause h hk hsized ht

theorem declaredSize?_typeClause (h : b.capabilities.validate column k usage = .ok w)
    (hk : k.kind ∈ b.sizedKinds) (hlong : ¬(b = informix ∧ Informix.IsLongText k))
    (ht : b.dialect.typeClause k = .ok type) : declaredSize? type = k.positiveSize :=
  (declares_typeClause h hk hlong ht).declaredSize?_eq

theorem declaredScale?_typeClause (h : b.capabilities.validate column k usage = .ok w)
    (hk : k.kind = .decimal) (ht : b.dialect.typeClause k = .ok type) :
    declaredScale? type = k.scale := by
  obtain ⟨p, hp⟩ := exists_positiveSize_of_decimal h hk
  have hlong : ¬(b = informix ∧ Informix.IsLongText k) := by
    rintro ⟨-, hstring, -⟩
    rw [hk] at hstring
    cases hstring
  rw [(declares_typeClause h (mem_sizedKinds h hp) hlong ht).declaredScale?_eq]
  exact if_pos hk

/-! ## Kinds with the same type -/

section

variable {k₁ k₂ : SizedKind} {w₁ w₂ : Option String} (hkind : k₁.kind = k₂.kind)
  (h₁ : b.capabilities.validate column k₁ usage = .ok w₁)
  (h₂ : b.capabilities.validate column k₂ usage = .ok w₂)
  (ht₁ : b.dialect.typeClause k₁ = .ok type) (ht₂ : b.dialect.typeClause k₂ = .ok type)

include hkind h₁ h₂ ht₁ ht₂

theorem positiveSize_eq_of_typeClause_eq (hlong₁ : ¬(b = informix ∧ Informix.IsLongText k₁))
    (hlong₂ : ¬(b = informix ∧ Informix.IsLongText k₂)) :
    k₁.positiveSize = k₂.positiveSize := by
  by_cases hsized : k₁.kind ∈ b.sizedKinds
  · rw [← declaredSize?_typeClause h₁ hsized hlong₁ ht₁,
      ← declaredSize?_typeClause h₂ (hkind ▸ hsized) hlong₂ ht₂]
  · have hnone₁ : k₁.positiveSize = none :=
      CapabilityTable.positiveSize_eq_none h₁ fun c hc hck =>
        entry_sized b c hc (hck ▸ hsized)
    have hnone₂ : k₂.positiveSize = none :=
      CapabilityTable.positiveSize_eq_none h₂ fun c hc hck =>
        entry_sized b c hc (hck ▸ hkind ▸ hsized)
    rw [hnone₁, hnone₂]

theorem positiveScale_eq_of_typeClause_eq : k₁.positiveScale = k₂.positiveScale := by
  by_cases hdecimal : k₁.kind = .decimal
  · have hscale : k₁.scale = k₂.scale := by
      rw [← declaredScale?_typeClause h₁ hdecimal ht₁,
        ← declaredScale?_typeClause h₂ (hkind ▸ hdecimal) ht₂]
    rw [SizedKind.positiveScale, SizedKind.positiveScale, hscale]
  · have hnone₁ : k₁.positiveScale = none :=
      CapabilityTable.positiveScale_eq_none h₁ fun c hc hck =>
        entry_scaled b c hc (hck ▸ hdecimal)
    have hnone₂ : k₂.positiveScale = none :=
      CapabilityTable.positiveScale_eq_none h₂ fun c hc hck =>
        entry_scaled b c hc (hck ▸ hkind ▸ hdecimal)
    rw [hnone₁, hnone₂]

end

end Builtin

end SchemaDdl
