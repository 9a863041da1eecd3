import SchemaDdl.Proofs.Lexical.Table

/-!
# Statements of the same shape

One lemma for each operation: of a vocabulary where the operation has a standard form, and of the
built-in dialects. Together they say that two changes of the same shape are rendered alike.
-/

namespace SchemaDdl.Lexical

open Text (Quote)

variable {v : Vocabulary} {P P' : String → Prop} {t t' n n' : String} {ns ns' : List String}

/-- Runs that give statements, side by side. -/
abbrev StatementsPaired (names : Quote) (P P' : String → Prop) :=
  Paired (List.Forall₂ (Alike names P P'))

/-! ## Standard statements -/

theorem word_keyword (k : ConstraintKind) : Word k.keyword := by
  cases k <;> decide

theorem paired_requireColumns (o : Operation) (h : ns.length = ns'.length) :
    Paired (fun _ _ => True) (requireColumns o t ns) (requireColumns o t' ns') := by
  cases ns with
  | nil =>
    rw [List.eq_nil_of_length_eq_zero h.symm]
    exact .error ..
  | cons m ms =>
    cases ns' with
    | nil => cases h
    | cons m' ms' => exact .ok trivial

/-- What is renamed, and how it is called then. -/
theorem alike_renaming {s s' : String} (h : Alike v.quote P P' s s') {w : String} (hw : Word w)
    (hn : P n) (hn' : P' n') :
    Alike v.quote P P' (s ++ w ++ v.quoteName n) (s' ++ w ++ v.quoteName n') :=
  h.glue hw (alike_quoteName hn hn')

section Standard

variable (ht : P t) (ht' : P' t') (hn : P n) (hn' : P' n')

include ht ht'

theorem paired_standard_addColumn (hv : Scannable v) {c c' : Column} (h : c.SameShape c')
    (hc : P c.name) (hc' : P' c'.name) (hd : P (v.defaultConstraintName t c.name))
    (hd' : P' (v.defaultConstraintName t' c'.name)) :
    StatementsPaired v.quote P P' (Standard.addColumn v t c) (Standard.addColumn v t' c') := by
  apply (paired_columnDefinition hv h false hc hc' hd hd').bind
  intro s s' hs
  exact .single ((alike_alterTable ht ht').glue (by decide) hs)

include hn hn'

theorem paired_standard_dropColumn :
    StatementsPaired v.quote P P' (Standard.dropColumn v t n) (Standard.dropColumn v t' n') :=
  .single (alike_renaming (alike_alterTable ht ht') (by decide) hn hn')

theorem paired_standard_dropConstraint :
    StatementsPaired v.quote P P' (Standard.dropConstraint v t n)
      (Standard.dropConstraint v t' n') :=
  .single (alike_renaming (alike_alterTable ht ht') (by decide) hn hn')

theorem paired_standard_renameTable :
    StatementsPaired v.quote P P' (Standard.renameTable v t n) (Standard.renameTable v t' n') :=
  .single (alike_renaming (alike_alterTable ht ht') (by decide) hn hn')

theorem paired_standard_renameColumn {m m' : String} (hm : P m) (hm' : P' m') :
    StatementsPaired v.quote P P' (Standard.renameColumn v t n m)
      (Standard.renameColumn v t' n' m') :=
  .single (alike_renaming (alike_renaming (alike_alterTable ht ht') (by decide) hn hn')
    (by decide) hm hm')

theorem paired_standard_renamePrimaryKey {m m' : String} (hm : P m) (hm' : P' m') :
    StatementsPaired v.quote P P' (Standard.renamePrimaryKey v t n m)
      (Standard.renamePrimaryKey v t' n' m') :=
  .single (alike_renaming (alike_renaming (alike_alterTable ht ht') (by decide) hn hn')
    (by decide) hm hm')

theorem paired_standard_addConstraint (k : ConstraintKind) (h : NamesPaired P P' ns ns') :
    StatementsPaired v.quote P P' (Standard.addConstraint v t n ns k)
      (Standard.addConstraint v t' n' ns' k) := by
  apply (paired_requireColumns k.operation h.length_eq).bind
  intro _ _ _
  have hname : Alike v.quote P P' (v.alterTable t ++ " ADD CONSTRAINT " ++ v.quoteName n)
      (v.alterTable t' ++ " ADD CONSTRAINT " ++ v.quoteName n') :=
    alike_renaming (alike_alterTable ht ht') (by decide) hn hn'
  have hkeyword := (hname.snoc (k := " ") (by decide)).snoc (word_keyword k)
  exact .single ((hkeyword.glue (k := " (") (by decide) (alike_quoteList h)).snoc (by decide))

theorem paired_standard_addForeignKey {m m' : String} (hm : P m) (hm' : P' m')
    {ks ks' : List KeyReference}
    (hcolumns : NamesPaired P P' (ks.map (·.column)) (ks'.map (·.column)))
    (hreferenced : NamesPaired P P' (ks.map (·.referencedColumn)) (ks'.map (·.referencedColumn))) :
    StatementsPaired v.quote P P' (Standard.addForeignKey v t m ks n)
      (Standard.addForeignKey v t' m' ks' n') := by
  apply (paired_requireColumns .addForeignKey hcolumns.length_eq).bind
  intro _ _ _
  have hname : Alike v.quote P P' (v.alterTable t ++ " ADD CONSTRAINT " ++ v.quoteName n)
      (v.alterTable t' ++ " ADD CONSTRAINT " ++ v.quoteName n') :=
    alike_renaming (alike_alterTable ht ht') (by decide) hn hn'
  have hkey := hname.glue (k := " FOREIGN KEY (") (by decide) (alike_quoteList hcolumns)
  have htable := alike_renaming hkey (w := ") REFERENCES ") (by decide) hm hm'
  exact .single ((htable.glue (k := " (") (by decide) (alike_quoteList hreferenced)).snoc
    (by decide))

end Standard

/-! ## Pieces of the built-in dialects -/

namespace Informix

open SchemaDdl.Informix

theorem paired_modify (ht : P t) (ht' : P' t') {x x' : Except DdlError String}
    (h : Paired (Alike vocabulary.quote P P') x x') :
    Paired (Alike vocabulary.quote P P') (x >>= fun s => .ok (modify t s))
      (x' >>= fun s => .ok (modify t' s)) := by
  apply h.bind
  intro s s' hs
  have halter := alike_alterTable (v := vocabulary) ht ht'
  exact .ok ((halter.glue (k := " MODIFY (") (by decide) hs).snoc (by decide))

end Informix

namespace Postgresql

open SchemaDdl.Postgresql

variable {a a' : String}

theorem alike_columnAction (hn : P n) (hn' : P' n') (ha : Alike vocabulary.quote P P' a a') :
    Alike vocabulary.quote P P' (columnAction n a) (columnAction n' a') :=
  ((alike_quoteName (v := vocabulary) hn hn').cons (by decide)).glue (by decide) ha

theorem alike_alterColumnAction (ht : P t) (ht' : P' t') (hn : P n) (hn' : P' n')
    (ha : Alike vocabulary.quote P P' a a') :
    Alike vocabulary.quote P P' (alterColumnAction t n a) (alterColumnAction t' n' a') :=
  (alike_alterTable (v := vocabulary) ht ht').glue (by decide) (alike_columnAction hn hn' ha)

end Postgresql

namespace SqlServer

open SchemaDdl.SqlServer

theorem alike_rename (p p' n n' : String) :
    Alike vocabulary.quote P P' (rename p n) (rename p' n') :=
  ((alike_unicodeLiteral p p').cons (by decide)).glue (by decide) (alike_unicodeLiteral n n')

/-- One more argument of a procedure. -/
theorem trailing_unicodeLiteral (s : String) :
    Trailing vocabulary.quote P P' (", " ++ unicodeLiteral s) (", " ++ unicodeLiteral s) :=
  .cons (by decide) (alike_unicodeLiteral s s)

theorem alike_dropDefaultConstraint (ht : P t) (ht' : P' t')
    (hd : P (vocabulary.defaultConstraintName t n))
    (hd' : P' (vocabulary.defaultConstraintName t' n')) :
    Alike vocabulary.quote P P' (dropDefaultConstraint t n) (dropDefaultConstraint t' n') :=
  alike_renaming (alike_alterTable ht ht') (by decide) hd hd'

/-- A statement behind the guard that an object exists. -/
theorem alike_guarded (p p' : String) {s s' : String} (h : Alike vocabulary.quote P P' s s') :
    Alike vocabulary.quote P P'
      ("IF OBJECT_ID(" ++ unicodeLiteral p ++ ", N'D') IS NOT NULL " ++ s)
      ("IF OBJECT_ID(" ++ unicodeLiteral p' ++ ", N'D') IS NOT NULL " ++ s') := by
  have hsplit : ", N'D') IS NOT NULL " = ", " ++ unicodeLiteral "D" ++ ") IS NOT NULL " := rfl
  have hobject : Alike vocabulary.quote P P' ("IF OBJECT_ID(" ++ unicodeLiteral p) _ :=
    (alike_unicodeLiteral p p').cons (by decide)
  have htype := trailing_unicodeLiteral "D" _ _ hobject
  rw [hsplit]
  simpa only [String.append_assoc] using htype.glue (k := ") IS NOT NULL ") (by decide) h

end SqlServer

/-! ## Statements of the built-in dialects -/

section Builtin

variable (b : Builtin) (ht : P t) (ht' : P' t') (hn : P n) (hn' : P' n')

include ht ht'

theorem paired_dropTable :
    StatementsPaired b.dialect.quote P P' (b.dialect.dropTable t) (b.dialect.dropTable t') := by
  rw [b.dropTable_eq]
  exact .single ((alike_quoteName ht ht').cons (by decide))

theorem paired_addColumn {c c' : Column} (h : c.SameShape c') (hc : P c.name) (hc' : P' c'.name)
    (hd : P (b.dialect.defaultConstraintName t c.name))
    (hd' : P' (b.dialect.defaultConstraintName t' c'.name)) :
    StatementsPaired b.dialect.quote P P' (b.dialect.addColumn t c)
      (b.dialect.addColumn t' c') := by
  have hdefinition := paired_columnDefinition (scannable_builtin b) h false hc hc' hd hd'
  have halter := alike_alterTable (v := b.dialect.toVocabulary) ht ht'
  cases b with
  | postgresql | sqlite =>
    exact paired_standard_addColumn ht ht' (scannable_builtin _) h hc hc' hd hd'
  | informix =>
    apply hdefinition.bind
    intro s s' hs
    exact .single ((halter.glue (k := " ADD (") (by decide) hs).snoc (by decide))
  | sqlServer =>
    apply hdefinition.bind
    intro s s' hs
    exact .single (halter.glue (k := " ADD ") (by decide) hs)

include hn hn'

theorem paired_dropColumn :
    StatementsPaired b.dialect.quote P P' (b.dialect.dropColumn t n)
      (b.dialect.dropColumn t' n') := by
  cases b with
  | postgresql | sqlite | sqlServer => exact paired_standard_dropColumn ht ht' hn hn'
  | informix =>
    exact .single (alike_renaming (v := Informix.vocabulary) (alike_alterTable ht ht')
      (w := " DROP ") (by decide) hn hn')

theorem paired_renameTable :
    StatementsPaired b.dialect.quote P P' (b.dialect.renameTable t n)
      (b.dialect.renameTable t' n') := by
  cases b with
  | postgresql | sqlite => exact paired_standard_renameTable ht ht' hn hn'
  | informix =>
    have htable := (alike_quoteName (v := Informix.vocabulary) ht ht').cons (k := "RENAME TABLE ")
      (by decide)
    exact .single (alike_renaming htable (w := " TO ") (by decide) hn hn')
  | sqlServer => exact .single (SqlServer.alike_rename ..)

theorem paired_renameColumn {m m' : String} (hm : P m) (hm' : P' m') :
    StatementsPaired b.dialect.quote P P' (b.dialect.renameColumn t n m)
      (b.dialect.renameColumn t' n' m') := by
  cases b with
  | postgresql | sqlite => exact paired_standard_renameColumn ht ht' hn hn' hm hm'
  | informix =>
    have htable := (alike_quoteName (v := Informix.vocabulary) ht ht').cons (k := "RENAME COLUMN ")
      (by decide)
    have hcolumn := alike_renaming htable (w := ".") (by decide) hn hn'
    exact .single (alike_renaming hcolumn (w := " TO ") (by decide) hm hm')
  | sqlServer =>
    exact .single (SqlServer.trailing_unicodeLiteral "COLUMN" _ _ (SqlServer.alike_rename ..))

theorem paired_renamePrimaryKey {m m' : String} (hm : P m) (hm' : P' m') :
    StatementsPaired b.dialect.quote P P' (b.dialect.renamePrimaryKey t n m)
      (b.dialect.renamePrimaryKey t' n' m') := by
  cases b with
  | informix | sqlite => exact .error ..
  | postgresql => exact paired_standard_renamePrimaryKey ht ht' hn hn' hm hm'
  | sqlServer =>
    exact .single (SqlServer.trailing_unicodeLiteral "OBJECT" _ _ (SqlServer.alike_rename ..))

theorem paired_addConstraint (k : ConstraintKind) (h : NamesPaired P P' ns ns') :
    StatementsPaired b.dialect.quote P P' (b.dialect.addConstraint t n ns k)
      (b.dialect.addConstraint t' n' ns' k) := by
  cases b with
  | sqlite => exact .error ..
  | postgresql | sqlServer => exact paired_standard_addConstraint ht ht' hn hn' k h
  | informix =>
    apply (paired_requireColumns k.operation h.length_eq).bind
    intro _ _ _
    have halter := alike_alterTable (v := Informix.vocabulary) ht ht'
    have hkeyword := (halter.snoc (k := " ADD CONSTRAINT ") (by decide)).snoc (word_keyword k)
    have hlist := hkeyword.glue (k := " (") (by decide) (alike_quoteList h)
    exact .single (alike_renaming hlist (w := ") CONSTRAINT ") (by decide) hn hn')

theorem paired_addForeignKey {m m' : String} (hm : P m) (hm' : P' m') {ks ks' : List KeyReference}
    (hcolumns : NamesPaired P P' (ks.map (·.column)) (ks'.map (·.column)))
    (hreferenced : NamesPaired P P' (ks.map (·.referencedColumn)) (ks'.map (·.referencedColumn))) :
    StatementsPaired b.dialect.quote P P' (b.dialect.addForeignKey t m ks n)
      (b.dialect.addForeignKey t' m' ks' n') := by
  cases b with
  | sqlite => exact .error ..
  | postgresql | sqlServer =>
    exact paired_standard_addForeignKey ht ht' hn hn' hm hm' hcolumns hreferenced
  | informix =>
    apply (paired_requireColumns .addForeignKey hcolumns.length_eq).bind
    intro _ _ _
    have halter := alike_alterTable (v := Informix.vocabulary) ht ht'
    have hkey := halter.glue (k := " ADD CONSTRAINT FOREIGN KEY (") (by decide)
      (alike_quoteList hcolumns)
    have htable := alike_renaming hkey (w := ") REFERENCES ") (by decide) hm hm'
    have hlist := htable.glue (k := " (") (by decide) (alike_quoteList hreferenced)
    exact .single (alike_renaming hlist (w := ") CONSTRAINT ") (by decide) hn hn')

theorem paired_addIndex (h : NamesPaired P P' ns ns') :
    StatementsPaired b.dialect.quote P P' (b.dialect.addIndex t ns n)
      (b.dialect.addIndex t' ns' n') := by
  rw [b.addIndex_eq]
  apply (paired_requireColumns .addIndex h.length_eq).bind
  intro _ _ _
  have hindex := (alike_quoteName (v := b.dialect.toVocabulary) hn hn').cons (k := "CREATE INDEX ")
    (by decide)
  have htable := alike_renaming hindex (w := " ON ") (by decide) ht ht'
  exact .single ((htable.glue (k := " (") (by decide) (alike_quoteList h)).snoc (by decide))

theorem paired_dropIndex :
    StatementsPaired b.dialect.quote P P' (b.dialect.dropIndex t n)
      (b.dialect.dropIndex t' n') := by
  have hindex := (alike_quoteName (v := b.dialect.toVocabulary) hn hn').cons (k := "DROP INDEX ")
    (by decide)
  cases b with
  | informix | postgresql | sqlite => exact .single hindex
  | sqlServer => exact .single (alike_renaming hindex (w := " ON ") (by decide) ht ht')

theorem paired_dropUniqueConstraint :
    StatementsPaired b.dialect.quote P P' (b.dialect.dropUniqueConstraint t n)
      (b.dialect.dropUniqueConstraint t' n') := by
  cases b with
  | sqlite => exact .error ..
  | informix | postgresql | sqlServer => exact paired_standard_dropConstraint ht ht' hn hn'

theorem paired_dropForeignKey :
    StatementsPaired b.dialect.quote P P' (b.dialect.dropForeignKey t n)
      (b.dialect.dropForeignKey t' n') := by
  cases b with
  | sqlite => exact .error ..
  | informix | postgresql | sqlServer => exact paired_standard_dropConstraint ht ht' hn hn'

theorem paired_dropPrimaryKey :
    StatementsPaired b.dialect.quote P P' (b.dialect.dropPrimaryKey t n)
      (b.dialect.dropPrimaryKey t' n') := by
  cases b with
  | sqlite => exact .error ..
  | informix | postgresql | sqlServer => exact paired_standard_dropConstraint ht ht' hn hn'

end Builtin

/-! ## Defaults and types of columns -/

theorem isSome_default_eq {d d' : ColumnDefault} (h : d.SameShape d') : d.isSome = d'.isSome := by
  cases h <;> rfl

theorem sameShape_withoutDefault {c c' : Column} (h : c.SameShape c') :
    c.withoutDefault.SameShape c'.withoutDefault :=
  ⟨h.kind, h.nullable, .none⟩

section Column

variable (b : Builtin) (ht : P t) (ht' : P' t') {c c' : Column} (h : c.SameShape c')
  (hc : P c.name) (hc' : P' c'.name) (hd : P (b.dialect.defaultConstraintName t c.name))
  (hd' : P' (b.dialect.defaultConstraintName t' c'.name))

include ht ht' h hc hc' hd hd'

theorem paired_dropDefaultStatement (guarded : Bool) :
    Paired (Alike b.dialect.quote P P') (b.dialect.dropDefaultStatement t c guarded)
      (b.dialect.dropDefaultStatement t' c' guarded) := by
  cases b with
  | informix =>
    exact Informix.paired_modify ht ht' (paired_columnDefinition (scannable_builtin .informix)
      (sameShape_withoutDefault h) false hc hc' hd hd')
  | postgresql =>
    exact .ok (Postgresql.alike_alterColumnAction ht ht' hc hc'
      (.word (k := "DROP DEFAULT") (by decide)))
  | sqlite => exact .error ..
  | sqlServer =>
    cases guarded with
    | false => exact .ok (SqlServer.alike_dropDefaultConstraint ht ht' hd hd')
    | true =>
      exact .ok (SqlServer.alike_guarded _ _ (SqlServer.alike_dropDefaultConstraint ht ht' hd hd'))

theorem paired_modifyColumnStatement :
    Paired (Alike b.dialect.quote P P') (b.dialect.modifyColumnStatement t c)
      (b.dialect.modifyColumnStatement t' c') := by
  have htype := paired_typeClause (scannable_builtin b) h.kind
  cases b with
  | informix =>
    exact Informix.paired_modify ht ht' (paired_columnDefinition (scannable_builtin .informix)
      (sameShape_withoutDefault h) false hc hc' hd hd')
  | postgresql =>
    apply htype.bind
    rintro s _ ⟨rfl, hs⟩
    rw [h.nullable]
    have haction : Alike Postgresql.vocabulary.quote P P'
        (Postgresql.alterColumnAction t c.name ("TYPE " ++ s)) _ :=
      Postgresql.alike_alterColumnAction ht ht' hc hc' ((Alike.word hs).cons (by decide))
    have hnull : Word (if c'.nullable then "DROP NOT NULL" else "SET NOT NULL") := by
      split <;> decide
    exact .ok (haction.glue (k := ", ") (by decide)
      (Postgresql.alike_columnAction hc hc' (.word hnull)))
  | sqlite => exact .error ..
  | sqlServer =>
    apply htype.bind
    rintro s _ ⟨rfl, hs⟩
    rw [h.nullable]
    have halter := alike_alterTable (v := SqlServer.vocabulary) ht ht'
    have hcolumn := alike_renaming halter (w := " ALTER COLUMN ") (by decide) hc hc'
    have hnull : Word (if c'.nullable then " NULL" else " NOT NULL") := by split <;> decide
    exact .ok (((hcolumn.snoc (k := " ") (by decide)).snoc hs).snoc hnull)

theorem paired_addDefaultStatement :
    Paired (Alike b.dialect.quote P P') (b.dialect.addDefaultStatement t c)
      (b.dialect.addDefaultStatement t' c') := by
  have hdefault : Paired (Alike b.dialect.quote P P') (b.dialect.requiredDefault t c)
      (b.dialect.requiredDefault t' c') :=
    paired_requiredDefault (scannable_builtin b).toScannableSpelling h
  cases b with
  | informix =>
    apply hdefault.bind
    intro _ _ _
    exact Informix.paired_modify ht ht'
      (paired_columnDefinition (scannable_builtin .informix) h false hc hc' hd hd')
  | postgresql =>
    apply hdefault.bind
    intro s s' hs
    exact .ok (Postgresql.alike_alterColumnAction ht ht' hc hc'
      (hs.cons (k := "SET DEFAULT ") (by decide)))
  | sqlite => exact .error ..
  | sqlServer =>
    apply hdefault.bind
    intro s s' hs
    have halter := alike_alterTable (v := SqlServer.vocabulary) ht ht'
    have hconstraint := alike_renaming halter (w := " ADD CONSTRAINT ") (by decide) hd hd'
    have hexpression := hconstraint.glue (k := " DEFAULT ") (by decide) hs
    exact .ok (alike_renaming hexpression (w := " FOR ") (by decide) hc hc')

theorem paired_alterColumn :
    StatementsPaired b.dialect.quote P P' (b.dialect.alterColumn t c)
      (b.dialect.alterColumn t' c') := by
  by_cases hb : b = .sqlite
  · subst hb
    exact .error ..
  · rw [Builtin.alterColumn_eq_bind hb, Builtin.alterColumn_eq_bind hb,
      isSome_default_eq h.default]
    apply (paired_dropDefaultStatement b ht ht' h hc hc' hd hd' true).bind
    intro dropped dropped' hdropped
    apply (paired_modifyColumnStatement b ht ht' h hc hc' hd hd').bind
    intro modified modified' hmodified
    split
    · apply (paired_addDefaultStatement b ht ht' h hc hc' hd hd').bind
      intro added added' hadded
      exact .ok (.cons hdropped (.cons hmodified (.cons hadded .nil)))
    · exact .ok (.cons hdropped (.cons hmodified .nil))

theorem paired_dropDefault :
    StatementsPaired b.dialect.quote P P' (b.dialect.dropDefault t c)
      (b.dialect.dropDefault t' c') := by
  rw [b.dropDefault_eq, Standard.dropDefault_eq_ite, Standard.dropDefault_eq_ite,
    isSome_default_eq h.default]
  split
  · exact .error ..
  · apply (paired_dropDefaultStatement b ht ht' h hc hc' hd hd' false).bind
    intro dropped dropped' hdropped
    exact .single hdropped

end Column

end SchemaDdl.Lexical
