import SchemaDdl.Proofs.Builtin
import SchemaDdl.Proofs.Lexical.Vocabulary

/-!
# The vocabularies of the built-in dialects

`scannable_builtin` says that every built-in vocabulary is scannable: one lemma for the types of
each dialect, and one for its values.
-/

namespace SchemaDdl

open Lexical

/-! ## Informix -/

namespace Informix

theorem word_textClause (k : SizedKind) : Word (textClause k) := by
  unfold textClause
  split
  · split_ifs
    · exact word_sized (w := "NVARCHAR") (by decide) _
    · exact word_sized (w := "LVARCHAR") (by decide) _
    · decide
  · decide

theorem word_typeClause (k : SizedKind) (s : String) (h : typeClause k = .ok s) : Word s := by
  obtain ⟨kind, size, scale⟩ := k
  cases kind with
  | decimal => cases h; exact word_decimalClause (w := "DECIMAL") (by decide) _
  | varNumeric => cases h; exact word_decimalClause (w := "NUMERIC") (by decide) _
  | string => cases h; exact word_textClause _
  | stringFixedLength => cases h; exact word_sizedClause (w := "NCHAR") (by decide) _
  | ansiString | ansiStringFixedLength | currency | dateTime2 | dateTimeOffset | xml => cases h
  | _ => cases h; decide

theorem word_identityClause (k : SizedKind) (s : String) (h : identityClause k = .ok s) :
    Word s := by
  unfold identityClause at h
  split at h <;> cases h <;> decide

theorem scannable_spelling : ScannableSpelling vocabulary.toSpelling where
  quote := .inl rfl
  typeClause := word_typeClause
  identityClause := word_identityClause
  literal := by
    intro P P' l l' h
    have hq : vocabulary.quote = .double ∨ vocabulary.quote = .bracket := .inl rfl
    cases h with
    | text s s' => exact .ok (.string hq s s')
    | refl =>
      cases l with
      | bool b =>
        have hb : Unquoted (if b then "t" else "f") := .word (by cases b <;> decide)
        cases b <;> exact .ok (hb.alike_quoted hq)
      | date d =>
        have hd : Alike vocabulary.quote P P' ("DATETIME (" ++ d.iso ++ ") YEAR TO DAY") _ :=
          ((unquoted_iso d).alike.cons (by decide)).snoc (by decide)
        exact .ok hd
      | dateTime m =>
        have hm : Unquoted (m.text " " (.places 5)) := unquoted_dateTime m (by decide) _
        have hs : Alike vocabulary.quote P P'
            ("DATETIME (" ++ m.text " " (.places 5) ++ ") YEAR TO FRACTION(5)") _ :=
          (hm.alike.cons (by decide)).snoc (by decide)
        exact .ok hs
      | time t =>
        have ht : Unquoted (t.text (.places 5)) := .word (word_time t _)
        have hs : Alike vocabulary.quote P P'
            ("DATETIME (" ++ t.text (.places 5) ++ ") HOUR TO FRACTION(5)") _ :=
          (ht.alike.cons (by decide)).snoc (by decide)
        exact .ok hs
      | null | int | float | text | binary => exact paired_commonOrUnmapped hq _ _
  sentinel := by
    intro P P' s
    cases s with
    | currentDateTime => exact .ok (.word (by decide))
    | currentUtcDateTime | newGuid => exact .error ..

theorem scannable_vocabulary : Scannable vocabulary := scannable_spelling.scannable rfl rfl

end Informix

/-! ## PostgreSQL -/

namespace Postgresql

theorem word_typeClause (k : SizedKind) (s : String) (h : typeClause k = .ok s) : Word s := by
  obtain ⟨kind, size, scale⟩ := k
  cases kind with
  | decimal | varNumeric => cases h; exact word_decimalClause (w := "NUMERIC") (by decide) _
  | ansiString | string =>
    cases h
    split
    · exact word_sized (w := "VARCHAR") (by decide) _
    · decide
  | ansiStringFixedLength | stringFixedLength =>
    cases h
    exact word_sizedClause (w := "CHAR") (by decide) _
  | sByte | uInt16 | uInt32 | uInt64 => cases h
  | _ => cases h; decide

theorem word_identityClause (k : SizedKind) (s : String) (h : identityClause k = .ok s) :
    Word s := by
  obtain ⟨kind, size, scale⟩ := k
  cases kind with
  | int16 | int32 | int64 => cases h; decide
  | _ => cases h

/-- Bytes are a string in hexadecimal digits, with a cast behind it. -/
theorem bytea_eq (bytes : List UInt8) : "'\\x" ++ Text.hexUpper bytes ++ "'::bytea" =
    Text.stringLiteral ("\\x" ++ Text.hexUpper bytes) ++ "::bytea" := by
  have hb : Unquoted ("\\x" ++ Text.hexUpper bytes) :=
    .word (Word.append_plain (by decide) (plain_hexUpper bytes))
  rw [hb.stringLiteral_eq]
  apply String.toList_injective
  simp

theorem scannable_spelling : ScannableSpelling vocabulary.toSpelling where
  quote := .inl rfl
  typeClause := word_typeClause
  identityClause := word_identityClause
  literal := by
    intro P P' l l' h
    have hq : vocabulary.quote = .double ∨ vocabulary.quote = .bracket := .inl rfl
    cases h with
    | text s s' => exact .ok (.string hq s s')
    | refl =>
      cases l with
      | bool b => cases b <;> exact .ok (.word (by decide))
      | date d =>
        have hs : Alike vocabulary.quote P P' ("DATE " ++ "'" ++ d.iso ++ "'") _ :=
          (unquoted_iso d).alike_between hq (by decide)
        exact .ok hs
      | dateTime m =>
        have hm : Unquoted (m.text " " .asNeeded) := unquoted_dateTime m (by decide) _
        have hs : Alike vocabulary.quote P P'
            ("TIMESTAMP " ++ "'" ++ m.text " " .asNeeded ++ "'") _ :=
          hm.alike_between hq (by decide)
        exact .ok hs
      | time t =>
        have ht : Unquoted (t.text .asNeeded) := .word (word_time t _)
        have hs : Alike vocabulary.quote P P' ("TIME " ++ "'" ++ t.text .asNeeded ++ "'") _ :=
          ht.alike_between hq (by decide)
        exact .ok hs
      | binary bytes =>
        have hs : Alike vocabulary.quote P P'
            (Text.stringLiteral ("\\x" ++ Text.hexUpper bytes) ++ "::bytea")
            (Text.stringLiteral ("\\x" ++ Text.hexUpper bytes) ++ "::bytea") :=
          (Alike.string hq _ _).snoc (by decide)
        rw [← bytea_eq] at hs
        exact .ok hs
      | null | int | float | text => exact paired_commonOrUnmapped hq _ _
  sentinel := by
    intro P P' s
    have hq : vocabulary.quote = .double ∨ vocabulary.quote = .bracket := .inl rfl
    cases s with
    | currentDateTime | newGuid => exact .ok (.word (by decide))
    | currentUtcDateTime =>
      have hs : Alike vocabulary.quote P P'
          ("(CURRENT_TIMESTAMP AT TIME ZONE " ++ Text.stringLiteral "UTC" ++ ")") _ :=
        ((Alike.string hq "UTC" "UTC").cons (by decide)).snoc (by decide)
      exact .ok hs

theorem scannable_vocabulary : Scannable vocabulary := scannable_spelling.scannable rfl rfl

end Postgresql

/-! ## SQLite -/

namespace Sqlite

theorem word_typeClause (k : SizedKind) : Word (typeClause k) := by
  obtain ⟨kind, size, scale⟩ := k
  cases kind with
  | currency | decimal | varNumeric => exact word_decimalClause (w := "NUMERIC") (by decide) _
  | ansiString | string =>
    simp only [typeClause]
    split
    · exact word_sized (w := "VARCHAR") (by decide) _
    · decide
  | ansiStringFixedLength | stringFixedLength =>
    exact word_sizedClause (w := "CHAR") (by decide) _
  | _ => simp only [typeClause]; decide

theorem word_identityClause (k : SizedKind) (s : String) (h : identityClause k = .ok s) :
    Word s := by
  obtain ⟨kind, size, scale⟩ := k
  cases kind with
  | int32 | int64 => cases h; decide
  | _ => cases h

theorem scannable_spelling : ScannableSpelling vocabulary.toSpelling where
  quote := .inl rfl
  typeClause := by
    intro k s h
    cases h
    exact word_typeClause k
  identityClause := word_identityClause
  literal := by
    intro P P' l l' h
    have hq : vocabulary.quote = .double ∨ vocabulary.quote = .bracket := .inl rfl
    cases h with
    | text s s' => exact .ok (.string hq s s')
    | refl =>
      cases l with
      | bool b => cases b <;> exact .ok (.word (by decide))
      | date d => exact .ok (.string hq d.iso d.iso)
      | dateTime m => exact .ok (.string hq (m.text " " .asNeeded) _)
      | time t => exact .ok (.string hq (t.text .asNeeded) _)
      | binary bytes =>
        have hb : Unquoted (Text.hexUpper bytes) := .plain (plain_hexUpper bytes)
        have hs : Alike vocabulary.quote P P' ("X" ++ "'" ++ Text.hexUpper bytes ++ "'") _ :=
          hb.alike_between hq (by decide)
        exact .ok hs
      | null | int | float | text => exact paired_commonOrUnmapped hq _ _
  sentinel := by
    intro P P' s
    have hq : vocabulary.quote = .double ∨ vocabulary.quote = .bracket := .inl rfl
    cases s with
    | currentDateTime =>
      have hnow : Alike vocabulary.quote P P' ("(datetime(" ++ Text.stringLiteral "now") _ :=
        (Alike.string hq "now" "now").cons (by decide)
      have hs : Alike vocabulary.quote P P' ("(datetime(" ++ Text.stringLiteral "now" ++ ", " ++
          Text.stringLiteral "localtime" ++ "))") _ :=
        (hnow.glue (by decide) (.string hq _ "localtime")).snoc (by decide)
      exact .ok hs
    | currentUtcDateTime => exact .ok (.word (by decide))
    | newGuid => exact .error ..

theorem scannable_vocabulary : Scannable vocabulary := scannable_spelling.scannable rfl rfl

end Sqlite

/-! ## SQL Server -/

namespace SqlServer

theorem word_variableClause {w : String} (hw : Word w) (k : SizedKind) (limit : Nat) :
    Word (variableClause k w limit) := by
  have hmax : Word s!"{w}(MAX)" := hw.append (r := "(MAX)") (by decide)
  unfold variableClause
  split
  · split_ifs
    · exact word_sized hw _
    · exact hmax
  · exact hmax

theorem word_typeClause (k : SizedKind) (s : String) (h : typeClause k = .ok s) : Word s := by
  obtain ⟨kind, size, scale⟩ := k
  cases kind with
  | ansiString => cases h; exact word_variableClause (w := "VARCHAR") (by decide) _ _
  | binary => cases h; exact word_variableClause (w := "VARBINARY") (by decide) _ _
  | string => cases h; exact word_variableClause (w := "NVARCHAR") (by decide) _ _
  | ansiStringFixedLength => cases h; exact word_sizedClause (w := "CHAR") (by decide) _
  | stringFixedLength => cases h; exact word_sizedClause (w := "NCHAR") (by decide) _
  | decimal => cases h; exact word_decimalClause (w := "DECIMAL") (by decide) _
  | sByte | uInt16 | uInt32 | uInt64 | varNumeric => cases h
  | _ => cases h; decide

theorem word_identityClause (k : SizedKind) (s : String) (h : identityClause k = .ok s) :
    Word s := by
  obtain ⟨kind, size, scale⟩ := k
  cases kind with
  | byte | int16 | int32 | int64 => cases h; decide
  | decimal =>
    cases h
    exact (word_decimalClause (w := "DECIMAL") (by decide) _).append (by decide)
  | _ => cases h

theorem alike_unicodeLiteral {P P' : String → Prop} (t t' : String) :
    Alike vocabulary.quote P P' (unicodeLiteral t) (unicodeLiteral t') :=
  (Alike.string (.inr rfl) t t').cons (by decide)

theorem scannable_spelling : ScannableSpelling vocabulary.toSpelling where
  quote := .inr rfl
  typeClause := word_typeClause
  identityClause := word_identityClause
  literal := by
    intro P P' l l' h
    have hq : vocabulary.quote = .double ∨ vocabulary.quote = .bracket := .inr rfl
    cases h with
    | text s s' => exact .ok (alike_unicodeLiteral s s')
    | refl =>
      cases l with
      | bool b => cases b <;> exact .ok (.word (by decide))
      | text s => exact .ok (alike_unicodeLiteral s s)
      | date d => exact .ok ((unquoted_compact d).alike_quoted hq)
      | dateTime m =>
        have hm : Unquoted (m.text "T" (.places 3)) := unquoted_dateTime m (by decide) _
        exact .ok (hm.alike_quoted hq)
      | time t =>
        have ht : Unquoted (t.text (.places 3)) := .word (word_time t _)
        exact .ok (ht.alike_quoted hq)
      | binary bytes =>
        have hb : Word ("0x" ++ Text.hexUpper bytes) :=
          Word.append_plain (by decide) (plain_hexUpper bytes)
        exact .ok (.word hb)
      | null | int | float => exact paired_commonOrUnmapped hq _ _
  sentinel := by
    intro P P' s
    cases s <;> exact .ok (.word (by decide))

/-- A default is a constraint, so its clause has the name of this constraint in it. -/
theorem paired_defaultClause {P P' : String → Prop} {t t' : String} {c c' : Column}
    (h : c.SameShape c') (hd : P (spelling.defaultConstraintName t c.name))
    (hd' : P' (spelling.defaultConstraintName t' c'.name)) :
    Paired (Trailing spelling.quote P P') (defaultClause t c) (defaultClause t' c') := by
  apply (paired_defaultExpression scannable_spelling h.default).bind
  intro e e' he
  cases he with
  | none => exact .ok .nil
  | some he =>
    have hname : Alike spelling.quote P P' (defaultConstraint t c.name)
        (defaultConstraint t' c'.name) :=
      alike_quoteName (v := vocabulary) hd hd'
    have hconstraint := Trailing.cons (k := " CONSTRAINT ") (by decide) hname
    exact .ok (hconstraint.glue (by decide) he)

theorem scannable_vocabulary : Scannable vocabulary where
  toScannableSpelling := scannable_spelling
  defaultClause := fun _ _ _ _ _ _ => paired_defaultClause
  columnDefinition := rfl

end SqlServer

/-- Every built-in vocabulary is scannable. -/
theorem scannable_builtin (b : Builtin) : Scannable b.dialect.toVocabulary := by
  cases b with
  | informix => exact Informix.scannable_vocabulary
  | postgresql => exact Postgresql.scannable_vocabulary
  | sqlite => exact Sqlite.scannable_vocabulary
  | sqlServer => exact SqlServer.scannable_vocabulary

end SchemaDdl
