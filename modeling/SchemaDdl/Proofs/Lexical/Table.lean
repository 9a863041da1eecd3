import SchemaDdl.Proofs.Lexical.Builtin

/-!
# New tables of the same shape

The statement for a new table threads definitions, key columns and unique groups through one list of
columns. Each of these keeps the shape of the columns, so the statements for two tables of the same
shape are alike.
-/

namespace SchemaDdl.Lexical

variable {v : Vocabulary} {P P' : String → Prop}

/-- Columns of the same shape whose names, and those of their defaults, are allowed. -/
structure ColumnPaired (v : Vocabulary) (P P' : String → Prop) (t t' : String)
    (c c' : TableColumn) : Prop where
  shape : c.SameShape c'
  name : P c.name
  name' : P' c'.name
  constraint : P (v.defaultConstraintName t c.name)
  constraint' : P' (v.defaultConstraintName t' c'.name)

variable {t t' : String} {cs cs' : List TableColumn}

/-! ## Definitions, keys and groups -/

theorem sameShape_defined {c c' : TableColumn} (h : c.SameShape c') :
    c.defined.SameShape c'.defined where
  kind := h.column.kind
  nullable := by simp only [TableColumn.defined, h.column.nullable, h.primaryKey]
  default := h.column.default

theorem paired_definitions (hv : Scannable v)
    (h : List.Forall₂ (ColumnPaired v P P' t t') cs cs') :
    Paired (List.Forall₂ (Alike v.quote P P'))
      (cs.mapM fun c => v.columnDefinition t c.defined c.identity)
      (cs'.mapM fun c => v.columnDefinition t' c.defined c.identity) := by
  apply Paired.mapM h
  intro c c' hc
  rw [hc.shape.identity]
  exact paired_columnDefinition hv (sameShape_defined hc.shape) _ hc.name hc.name' hc.constraint
    hc.constraint'

theorem namesPaired_keys (h : List.Forall₂ (ColumnPaired v P P' t t') cs cs') :
    NamesPaired P P' ((cs.filter (·.primaryKey)).map (·.name))
      ((cs'.filter (·.primaryKey)).map (·.name)) := by
  rw [NamesPaired, List.forall₂_map_left_iff, List.forall₂_map_right_iff]
  induction h with
  | nil => exact .nil
  | @cons c c' rest rest' hc hrest ih =>
    rw [List.filter_cons, List.filter_cons, hc.shape.primaryKey]
    split
    · exact .cons ⟨hc.name, hc.name'⟩ ih
    · exact ih

/-- Unique constraints with the same labels over names one to one. -/
abbrev GroupsPaired (P P' : String → Prop) (gs gs' : UniqueGroups) : Prop :=
  List.Forall₂ (fun g g' => g.1 = g'.1 ∧ NamesPaired P P' g.2 g'.2) gs gs'

theorem groupsPaired_insert {gs gs' : UniqueGroups} (h : GroupsPaired P P' gs gs')
    (label : String) {n n' : String} (hn : P n) (hn' : P' n') :
    GroupsPaired P P' (gs.insert label n) (gs'.insert label n') := by
  have hone : NamesPaired P P' [n] [n'] := .cons ⟨hn, hn'⟩ .nil
  induction h with
  | nil => exact .cons ⟨rfl, hone⟩ .nil
  | @cons g g' rest rest' hg hrest ih =>
    obtain ⟨l, ns⟩ := g
    obtain ⟨l', ns'⟩ := g'
    obtain ⟨rfl, hns⟩ := hg
    unfold UniqueGroups.insert
    -- The labels agree, so both sides stop at the same constraint.
    split
    · exact .cons ⟨rfl, List.rel_append hns hone⟩ hrest
    · exact .cons ⟨rfl, hns⟩ ih

theorem groupsPaired_ofColumns (h : List.Forall₂ (ColumnPaired v P P' t t') cs cs') :
    GroupsPaired P P' (UniqueGroups.ofColumns cs) (UniqueGroups.ofColumns cs') := by
  refine List.rel_foldl (P := GroupsPaired P P') ?_ .nil h
  intro gs gs' hgs c c' hc
  simp only [hc.shape.uniqueGroup]
  split
  · exact hgs
  · exact groupsPaired_insert hgs _ hc.name hc.name'

/-! ## Checks -/

theorem find?_identity_paired (h : List.Forall₂ TableColumn.SameShape cs cs') :
    Option.Rel TableColumn.SameShape (cs.find? (·.identity)) (cs'.find? (·.identity)) := by
  induction h with
  | nil => exact .none
  | @cons c c' rest rest' hc hrest ih =>
    rw [List.find?_cons, List.find?_cons, hc.identity]
    split
    · exact .some hc
    · exact ih

theorem countP_primaryKey_eq (h : List.Forall₂ TableColumn.SameShape cs cs') :
    cs.countP (·.primaryKey) = cs'.countP (·.primaryKey) := by
  induction h with
  | nil => rfl
  | @cons c c' rest rest' hc hrest ih =>
    rw [List.countP_cons, List.countP_cons, ih, hc.primaryKey]

theorem paired_checkIdentityColumns (b : Builtin)
    (h : List.Forall₂ TableColumn.SameShape cs cs') :
    Paired (fun _ _ => True) (b.dialect.checkIdentityColumns t cs)
      (b.dialect.checkIdentityColumns t' cs') := by
  cases b with
  | informix | postgresql | sqlServer => exact .ok trivial
  | sqlite =>
    change Paired _ (Sqlite.checkIdentityColumns t cs) (Sqlite.checkIdentityColumns t' cs')
    unfold Sqlite.checkIdentityColumns
    rw [countP_primaryKey_eq h]
    have hfound := find?_identity_paired h
    generalize cs.find? (·.identity) = x at hfound ⊢
    generalize cs'.find? (·.identity) = x' at hfound ⊢
    cases hfound with
    | none => exact .ok trivial
    | some hc =>
      simp only [hc.primaryKey]
      split
      · exact .ok trivial
      · exact .error ..

/-! ## The statement -/

theorem alike_primaryKeyClause (b : Builtin) {n n' : String} (hempty : n.isEmpty = n'.isEmpty)
    (hn : P n) (hn' : P' n') {ns ns' : List String} (h : NamesPaired P P' ns ns') :
    Alike b.dialect.quote P P' (b.dialect.primaryKeyClause n ns)
      (b.dialect.primaryKeyClause n' ns') := by
  have hname : ∀ v : Vocabulary, Alike v.quote P P' (v.quoteName n) (v.quoteName n') :=
    fun v => alike_quoteName hn hn'
  have hclause : ∀ v : Vocabulary, Alike v.quote P P' ("PRIMARY KEY (" ++ v.quoteList ns ++ ")")
      ("PRIMARY KEY (" ++ v.quoteList ns' ++ ")") :=
    fun v => alike_columnList (by decide) h
  have hstandard : ∀ v : Vocabulary, Alike v.quote P P'
      (Standard.primaryKeyClause v.toSpelling n ns)
      (Standard.primaryKeyClause v.toSpelling n' ns') := by
    intro v
    unfold Standard.primaryKeyClause
    rw [hempty]
    split
    · exact hclause v
    · exact ((hname v).cons (by decide)).glue (by decide) (hclause v)
  cases b with
  | postgresql | sqlite | sqlServer => exact hstandard _
  | informix =>
    change Alike .double P P'
      (if n.isEmpty then _ else _ ++ " CONSTRAINT " ++ Informix.vocabulary.quoteName n)
      (if n'.isEmpty then _ else _ ++ " CONSTRAINT " ++ Informix.vocabulary.quoteName n')
    rw [hempty]
    split
    · exact hclause Informix.vocabulary
    · exact (hclause Informix.vocabulary).glue (by decide) (hname Informix.vocabulary)

/-- The line of the primary key, if there is one. -/
theorem alike_primaryKeyLines (b : Builtin) {n n' : String} (hempty : n.isEmpty = n'.isEmpty)
    (hn : P n) (hn' : P' n') {ns ns' : List String} (h : NamesPaired P P' ns ns') :
    List.Forall₂ (Alike b.dialect.quote P P')
      (if ns.isEmpty then [] else [b.dialect.primaryKeyClause n ns])
      (if ns'.isEmpty then [] else [b.dialect.primaryKeyClause n' ns']) := by
  cases h with
  | nil => exact .nil
  | cons hkey hrest => exact .cons (alike_primaryKeyClause b hempty hn hn' (.cons hkey hrest)) .nil

theorem alike_uniqueLines (b : Builtin) {gs gs' : UniqueGroups} (h : GroupsPaired P P' gs gs') :
    List.Forall₂ (Alike b.dialect.quote P P') (gs.map fun g => b.dialect.uniqueClause g.2)
      (gs'.map fun g => b.dialect.uniqueClause g.2) := by
  rw [List.forall₂_map_left_iff, List.forall₂_map_right_iff, b.uniqueClause_eq]
  exact h.imp fun g g' hg => alike_columnList (by decide) hg.2

/-- Lines between the parentheses of a new table. -/
theorem alike_lines {ls ls' : List String} (h : List.Forall₂ (Alike v.quote P P') ls ls') :
    Alike v.quote P P' (",\n".intercalate (ls.map ("    " ++ ·)))
      (",\n".intercalate (ls'.map ("    " ++ ·))) := by
  apply Alike.intercalate (by decide)
  rw [List.forall₂_map_left_iff, List.forall₂_map_right_iff]
  exact h.imp fun l l' hl => hl.cons (by decide)

theorem paired_createTable (b : Builtin) (ht : P t) (ht' : P' t')
    (h : List.Forall₂ (ColumnPaired b.dialect.toVocabulary P P' t t') cs cs') {n n' : String}
    (hempty : n.isEmpty = n'.isEmpty) (hn : P n) (hn' : P' n') :
    Paired (List.Forall₂ (Alike b.dialect.quote P P')) (b.dialect.createTable t cs n)
      (b.dialect.createTable t' cs' n') := by
  rw [b.createTable_eq]
  apply (paired_checkIdentityColumns b (h.imp fun c c' hc => hc.shape)).bind
  intro _ _ _
  apply (paired_definitions (scannable_builtin b) h).bind
  intro ds ds' hds
  have hkeys := alike_primaryKeyLines b hempty hn hn' (namesPaired_keys h)
  have huniques := alike_uniqueLines b (groupsPaired_ofColumns h)
  have hbody := alike_lines (List.rel_append (List.rel_append hds hkeys) huniques)
  have htable : Alike b.dialect.quote P P' ("CREATE TABLE " ++ b.dialect.quoteName t)
      ("CREATE TABLE " ++ b.dialect.quoteName t') :=
    (alike_quoteName ht ht').cons (by decide)
  exact .ok (.cons ((htable.glue (k := " (\n") (by decide) hbody).snoc (by decide)) .nil)

end SchemaDdl.Lexical
