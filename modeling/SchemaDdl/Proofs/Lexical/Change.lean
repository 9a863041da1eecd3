import SchemaDdl.Proofs.Lexical.Statement
import SchemaDdl.Render

/-!
# Changes of the same shape, rendered

A built-in dialect renders changes of the same shape alike, and the identifiers in their statements
are names of the changes or derived from these.
-/

namespace SchemaDdl.Lexical

variable {P P' : String → Prop} {t t' : String}

/-- A derived name is not empty where it may be longer than a digest. -/
theorem objectName_ne_empty (n : ObjectName) {max : Nat}
    (hmax : ObjectName.digestLength + 1 < max) : n.text max ≠ "" := by
  unfold ObjectName.text
  rw [if_neg (by omega : ¬max ≤ ObjectName.digestLength + 1)]
  split
  · obtain ⟨kind, table, columns⟩ := n
    cases kind <;> simp [ObjectName.composed, ObjectName.parts, ObjectKind.tag]
  · simp

theorem isEmpty_primaryKeyName (b : Builtin) (t : String) :
    (b.dialect.objectName .primaryKey t []).isEmpty = false := by
  have hlimit : ObjectName.digestLength + 1 < b.dialect.maxIdentifierLength := by
    cases b <;> decide
  rw [Spelling.objectName, String.isEmpty_eq_false_iff]
  exact objectName_ne_empty _ hlimit

/-- A name that is given, or else derived. -/
theorem named_getD {n : Option String} {d : String} (hn : ∀ m ∈ n.toList, P m) (hd : P d) :
    P (n.getD d) := by
  cases n with
  | none => exact hd
  | some m => exact hn m (by simp)

theorem isEmpty_getD_eq {n n' : Option String} {d d' : String}
    (hname : n.map String.isEmpty = n'.map String.isEmpty) (hd : d.isEmpty = d'.isEmpty) :
    (n.getD d).isEmpty = (n'.getD d').isEmpty := by
  cases n with
  | none =>
    rw [Option.map_eq_none_iff.mp hname.symm]
    exact hd
  | some m =>
    obtain ⟨m', rfl, hm⟩ := Option.map_eq_some_iff.mp hname.symm
    exact hm.symm

theorem columnPaired_of_sameShape {v : Vocabulary} {cs cs' : List TableColumn}
    (h : List.Forall₂ TableColumn.SameShape cs cs')
    (hP : ∀ c ∈ cs, P c.name ∧ P (v.defaultConstraintName t c.name))
    (hP' : ∀ c ∈ cs', P' c.name ∧ P' (v.defaultConstraintName t' c.name)) :
    List.Forall₂ (ColumnPaired v P P' t t') cs cs' := by
  rw [List.forall₂_iff_zip] at h ⊢
  refine ⟨h.1, fun {c c'} hmem => ?_⟩
  obtain ⟨hc, hc'⟩ := List.of_mem_zip hmem
  exact ⟨h.2 hmem, (hP c hc).1, (hP' c' hc').1, (hP c hc).2, (hP' c' hc').2⟩

/-- The names that a change may put into its statements, all of them allowed. -/
def Allowed (v : Vocabulary) (P : String → Prop) (c : Change) : Prop :=
  ∀ n ∈ c.names ++ c.derivedNames v, P n

theorem paired_render (b : Builtin) {c c' : Change} (h : c.SameShape c')
    (hP : Allowed b.dialect.toVocabulary P c) (hP' : Allowed b.dialect.toVocabulary P' c') :
    StatementsPaired b.dialect.quote P P' (c.render b.dialect) (c'.render b.dialect) := by
  cases h
  -- What is allowed becomes one condition for each name of the change.
  all_goals
    simp only [Allowed, Change.names, Change.derivedNames, List.cons_append, List.nil_append,
      List.append_assoc, List.append_nil, List.forall_mem_cons, List.forall_mem_append,
      List.forall_mem_map, List.not_mem_nil, false_implies, implies_true, and_true] at hP hP'
  case createTable t t' cs cs' n n' columns name =>
    obtain ⟨ht, hc, hn, hk, hd⟩ := hP
    obtain ⟨ht', hc', hn', hk', hd'⟩ := hP'
    have hpaired : List.Forall₂ (ColumnPaired b.dialect.toVocabulary P P' t t') cs cs' :=
      columnPaired_of_sameShape columns (fun c h => ⟨hc c h, hd c h⟩)
        fun c h => ⟨hc' c h, hd' c h⟩
    have hderived : (b.dialect.objectName .primaryKey t []).isEmpty =
        (b.dialect.objectName .primaryKey t' []).isEmpty := by
      rw [isEmpty_primaryKeyName, isEmpty_primaryKeyName]
    exact paired_createTable b ht ht' hpaired (isEmpty_getD_eq name hderived)
      (named_getD hn hk) (named_getD hn' hk')
  case dropTable => exact paired_dropTable b hP hP'
  case renameTable => exact paired_renameTable b hP.1 hP'.1 hP.2 hP'.2
  case addColumn c c' column =>
    obtain ⟨ht, hc, hd⟩ := hP
    obtain ⟨ht', hc', hd'⟩ := hP'
    exact paired_addColumn b ht ht' column hc hc' hd hd'
  case dropColumn => exact paired_dropColumn b hP.1 hP'.1 hP.2 hP'.2
  case renameColumn =>
    obtain ⟨ht, ho, hn⟩ := hP
    obtain ⟨ht', ho', hn'⟩ := hP'
    exact paired_renameColumn b ht ht' ho ho' hn hn'
  case alterColumn c c' column =>
    obtain ⟨ht, hc, hd⟩ := hP
    obtain ⟨ht', hc', hd'⟩ := hP'
    exact paired_alterColumn b ht ht' column hc hc' hd hd'
  case dropDefault c c' column =>
    obtain ⟨ht, hc, hd⟩ := hP
    obtain ⟨ht', hc', hd'⟩ := hP'
    exact paired_dropDefault b ht ht' column hc hc' hd hd'
  case addPrimaryKey columns name =>
    obtain ⟨ht, hc, hn, hd⟩ := hP
    obtain ⟨ht', hc', hn', hd'⟩ := hP'
    rw [Change.render, Change.render, b.addPrimaryKey_eq, b.addPrimaryKey_eq]
    exact paired_addConstraint b ht ht' (named_getD hn hd) (named_getD hn' hd') .primaryKey
      (namesPaired_of_length columns hc hc')
  case renamePrimaryKey =>
    obtain ⟨ht, ho, hn⟩ := hP
    obtain ⟨ht', ho', hn'⟩ := hP'
    exact paired_renamePrimaryKey b ht ht' ho ho' hn hn'
  case dropPrimaryKey => exact paired_dropPrimaryKey b hP.1 hP'.1 hP.2 hP'.2
  case addUniqueConstraint columns name =>
    obtain ⟨ht, hc, hn, hd⟩ := hP
    obtain ⟨ht', hc', hn', hd'⟩ := hP'
    rw [Change.render, Change.render, b.addUniqueConstraint_eq, b.addUniqueConstraint_eq]
    exact paired_addConstraint b ht ht' (named_getD hn hd) (named_getD hn' hd') .unique
      (namesPaired_of_length columns hc hc')
  case dropUniqueConstraint => exact paired_dropUniqueConstraint b hP.1 hP'.1 hP.2 hP'.2
  case addForeignKey references name =>
    obtain ⟨ht, hr, hc, hrc, hn, hd⟩ := hP
    obtain ⟨ht', hr', hc', hrc', hn', hd'⟩ := hP'
    exact paired_addForeignKey b ht ht' (named_getD hn hd) (named_getD hn' hd') hr hr'
      (namesPaired_of_length (by simpa using references) (List.forall_mem_map.mpr hc)
        (List.forall_mem_map.mpr hc'))
      (namesPaired_of_length (by simpa using references) (List.forall_mem_map.mpr hrc)
        (List.forall_mem_map.mpr hrc'))
  case dropForeignKey => exact paired_dropForeignKey b hP.1 hP'.1 hP.2 hP'.2
  case addIndex columns name =>
    obtain ⟨ht, hc, hn, hd⟩ := hP
    obtain ⟨ht', hc', hn', hd'⟩ := hP'
    exact paired_addIndex b ht ht' (named_getD hn hd) (named_getD hn' hd')
      (namesPaired_of_length columns hc hc')
  case dropIndex => exact paired_dropIndex b hP.1 hP'.1 hP.2 hP'.2

/-- A statement of a change beside itself. -/
theorem alike_of_render (b : Builtin) {c : Change} {ss : List String}
    (h : c.render b.dialect = .ok ss) :
    ∀ s ∈ ss, Alike b.dialect.quote (· ∈ c.names ++ c.derivedNames b.dialect.toVocabulary)
      (· ∈ c.names ++ c.derivedNames b.dialect.toVocabulary) s s := by
  have hself : StatementsPaired b.dialect.quote
      (· ∈ c.names ++ c.derivedNames b.dialect.toVocabulary)
      (· ∈ c.names ++ c.derivedNames b.dialect.toVocabulary)
      (c.render b.dialect) (c.render b.dialect) :=
    paired_render b (.refl c) (fun n hn => hn) fun n hn => hn
  rw [h] at hself
  cases hself with
  | ok hss => exact List.forall₂_same.mp hss

end SchemaDdl.Lexical
