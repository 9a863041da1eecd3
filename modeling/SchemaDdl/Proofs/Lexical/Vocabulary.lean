import SchemaDdl.Proofs.Lexical.Unquoted
import SchemaDdl.Proofs.SameShape

/-!
# Vocabularies that can be scanned

A spelling is scannable if its types are words and its values keep their texts between quotes, and a
vocabulary if its spelling is and its default clauses of the same shape are alike. From that,
identifiers, lists and column definitions of the same shape are alike.
-/

namespace SchemaDdl.Lexical

open Text (Quote)

/-- The smallest pieces can be scanned. -/
structure ScannableSpelling (v : Spelling) : Prop where
  quote : v.quote = .double ∨ v.quote = .bracket
  typeClause : ∀ k s, v.typeClause k = .ok s → Word s
  identityClause : ∀ k s, v.identityClause k = .ok s → Word s
  literal : ∀ P P' l l', l.SameShape l' → Paired (Alike v.quote P P') (v.literal l) (v.literal l')
  sentinel : ∀ P P' s, Paired (Alike v.quote P P') (v.sentinel s) (v.sentinel s)

/-- The pieces that a vocabulary spells can be scanned. Its column definitions are the standard
ones, with its own default clauses. -/
structure Scannable (v : Vocabulary) : Prop extends ScannableSpelling v.toSpelling where
  defaultClause : ∀ P P' t t' (c c' : Column), c.SameShape c' →
    P (v.defaultConstraintName t c.name) → P' (v.defaultConstraintName t' c'.name) →
      Paired (Trailing v.quote P P') (v.defaultClause t c) (v.defaultClause t' c')
  columnDefinition : v.columnDefinition = Standard.columnDefinition v.toSpelling v.defaultClause

variable {v : Vocabulary} {P P' : String → Prop}

/-! ## Identifiers -/

theorem alike_quoteName {n n' : String} (hn : P n) (hn' : P' n') :
    Alike v.quote P P' (v.quoteName n) (v.quoteName n') :=
  .name hn hn'

theorem alike_alterTable {t t' : String} (ht : P t) (ht' : P' t') :
    Alike v.quote P P' (v.alterTable t) (v.alterTable t') :=
  (alike_quoteName ht ht').cons (by decide)

/-- Names one to one, those of either list allowed on its side. -/
abbrev NamesPaired (P P' : String → Prop) (ns ns' : List String) : Prop :=
  List.Forall₂ (fun n n' => P n ∧ P' n') ns ns'

theorem namesPaired_of_length {ns ns' : List String} (hlen : ns.length = ns'.length)
    (hns : ∀ n ∈ ns, P n) (hns' : ∀ n ∈ ns', P' n) : NamesPaired P P' ns ns' := by
  rw [NamesPaired, List.forall₂_iff_zip]
  refine ⟨hlen, fun {n n'} hmem => ?_⟩
  obtain ⟨hn, hn'⟩ := List.of_mem_zip hmem
  exact ⟨hns n hn, hns' n' hn'⟩

theorem alike_quoteList {ns ns' : List String} (h : NamesPaired P P' ns ns') :
    Alike v.quote P P' (v.quoteList ns) (v.quoteList ns') := by
  apply Alike.intercalate (by decide)
  rw [List.forall₂_map_left_iff, List.forall₂_map_right_iff]
  exact h.imp fun n n' hn => alike_quoteName hn.1 hn.2

/-- A keyword before names in parentheses. -/
theorem alike_columnList {w : String} (hw : Word w) {ns ns' : List String}
    (h : NamesPaired P P' ns ns') :
    Alike v.quote P P' (w ++ v.quoteList ns ++ ")") (w ++ v.quoteList ns' ++ ")") :=
  ((alike_quoteList h).cons hw).snoc (by decide)

/-! ## Defaults and column definitions -/

section Spelling

variable {v : Spelling} (hv : ScannableSpelling v)

include hv

theorem paired_defaultExpression {d d' : ColumnDefault} (h : d.SameShape d') :
    Paired (Option.Rel (Alike v.quote P P')) (v.defaultExpression d) (v.defaultExpression d') := by
  cases h with
  | none => exact .ok .none
  | literal hl => exact (hv.literal P P' _ _ hl).map fun _ _ => .some
  | sentinel s => exact (hv.sentinel P P' s).map fun _ _ => .some

theorem paired_requiredDefault {t t' : String} {c c' : Column} (h : c.SameShape c') :
    Paired (Alike v.quote P P') (v.requiredDefault t c) (v.requiredDefault t' c') := by
  apply (paired_defaultExpression hv h.default).bind
  intro e e' he
  cases he with
  | none => exact .error ..
  | some he => exact .ok he

theorem paired_standard_defaultClause (t t' : String) {c c' : Column} (h : c.SameShape c') :
    Paired (Trailing v.quote P P') (Standard.defaultClause v t c)
      (Standard.defaultClause v t' c') := by
  apply (paired_defaultExpression hv h.default).bind
  intro e e' he
  cases he with
  | none => exact .ok .nil
  | some he => exact .ok (.cons (by decide) he)

end Spelling

/-- A vocabulary with the standard clauses can be scanned if its spelling can. -/
theorem ScannableSpelling.scannable (hv : ScannableSpelling v.toSpelling)
    (hdefault : v.defaultClause = Standard.defaultClause v.toSpelling)
    (hdefinition : v.columnDefinition = Standard.columnDefinition v.toSpelling v.defaultClause) :
    Scannable v where
  toScannableSpelling := hv
  defaultClause := by
    intro P P' t t' c c' h _ _
    rw [hdefault]
    exact paired_standard_defaultClause hv t t' h
  columnDefinition := hdefinition

/-- The same type, which is a word. -/
theorem paired_typeClause (hv : Scannable v) {k k' : SizedKind} (h : k = k') :
    Paired (fun s s' => s = s' ∧ Word s) (v.typeClause k) (v.typeClause k') := by
  subst h
  apply Paired.refl
  intro s hs
  exact ⟨rfl, hv.typeClause k s hs⟩

theorem paired_identityClause (hv : Scannable v) {k k' : SizedKind} (h : k = k') :
    Paired (fun s s' => s = s' ∧ Word s) (v.identityClause k) (v.identityClause k') := by
  subst h
  apply Paired.refl
  intro s hs
  exact ⟨rfl, hv.identityClause k s hs⟩

theorem paired_columnDefinition (hv : Scannable v) {t t' : String} {c c' : Column}
    (h : c.SameShape c') (identity : Bool) (hn : P c.name) (hn' : P' c'.name)
    (hd : P (v.defaultConstraintName t c.name)) (hd' : P' (v.defaultConstraintName t' c'.name)) :
    Paired (Alike v.quote P P') (v.columnDefinition t c identity)
      (v.columnDefinition t' c' identity) := by
  rw [hv.columnDefinition, Standard.columnDefinition_eq_bind, Standard.columnDefinition_eq_bind,
    h.nullable]
  have htype : Paired (fun s s' => s = s' ∧ Word s)
      (if identity then v.identityClause c.kind else v.typeClause c.kind)
      (if identity then v.identityClause c'.kind else v.typeClause c'.kind) := by
    cases identity with
    | false => exact paired_typeClause hv h.kind
    | true => exact paired_identityClause hv h.kind
  apply htype.bind
  rintro s _ ⟨rfl, hs⟩
  apply (hv.defaultClause P P' t t' c c' h hd hd').bind
  intro d d' hdefault
  have hspace : Alike v.quote P P' (v.quoteName c.name ++ " ") (v.quoteName c'.name ++ " ") :=
    (alike_quoteName hn hn').snoc (by decide)
  have hnull : Trailing v.quote P P' (if c'.nullable then "" else " NOT NULL")
      (if c'.nullable then "" else " NOT NULL") := by
    split
    · exact .nil
    · exact .word (by decide)
  exact .ok (hnull _ _ (hdefault _ _ (hspace.snoc hs)))

/-! ## Types -/

theorem word_sized {w : String} (hw : Word w) (n : Nat) : Word s!"{w}({n})" :=
  ((hw.append (by decide)).append (.repr n)).append (by decide)

theorem word_sizedClause {w : String} (hw : Word w) (k : SizedKind) : Word (k.sizedClause w) := by
  unfold SizedKind.sizedClause
  split
  · exact word_sized hw _
  · exact hw

theorem word_decimalClause {w : String} (hw : Word w) (k : SizedKind) :
    Word (k.decimalClause w) := by
  unfold SizedKind.decimalClause
  split
  · next p s _ _ =>
    have hp : Word (w ++ "(" ++ toString p ++ ", ") :=
      ((hw.append (by decide)).append (.repr p)).append (by decide)
    exact (hp.append (.repr s)).append (by decide)
  · exact word_sized hw _
  · exact hw

/-! ## Values -/

theorem paired_commonOrUnmapped {names : Quote} (hn : names = .double ∨ names = .bracket)
    (l : Literal) (dialect : String) :
    Paired (Alike names P P') (l.commonOrUnmapped dialect) (l.commonOrUnmapped dialect) := by
  cases l with
  | null => exact .ok (.word (by decide))
  | int n => exact .ok (unquoted_int n.toInt).alike
  | text s => exact .ok (.string hn s s)
  | float x =>
    rw [Literal.commonOrUnmapped_float]
    apply Paired.refl
    intro s hs
    unfold finiteFloat at hs
    split at hs
    · cases hs
      exact (unquoted_positional _).alike
    · cases hs
  | bool | date | dateTime | time | binary => exact .error ..

end SchemaDdl.Lexical
