import SchemaDdl.Dialect.SqlServer
import SchemaDdl.Proofs.Lexical.Alike

/-!
# Reading statements

What a reader who knows the quotes of a dialect sees in a statement: its skeleton, the contents of
its identifiers and those of its strings. For statements that are written as tokens these are read
off the tokens; SQL Server, which also hands over names as texts, has its own statements here.
-/

namespace SchemaDdl

namespace Lexical

open Text (Quote)

/-- The content of a token between quotes `q`. -/
def Token.content? (q : Quote) : Token → Option String
  | .bare _ => none
  | .quoted q' content => if q' = q then some (String.ofList content) else none

/-- The contents of the identifiers of a text, in order. -/
def identifiers? (names : Quote) (s : String) : Option (List String) :=
  (tokens? names s.toList).map (·.filterMap (Token.content? names))

variable {names : Quote} {P P' : String → Prop} {s s' : String} {ts : List Token}

theorem Named.content (h : Named names P ts) : ∀ n ∈ ts.filterMap (Token.content? names), P n := by
  intro n hn
  obtain ⟨t, ht, htext⟩ := List.mem_filterMap.mp hn
  cases t with
  | bare c => cases htext
  | quoted q content =>
    rw [Token.content?] at htext
    split at htext
    · next hq =>
      subst hq
      cases htext
      exact h content ht
    · cases htext

theorem Alike.identifiers (hn : names = .double ∨ names = .bracket) (h : Alike names P P' s s') :
    ∃ ns, identifiers? names s = some ns ∧ ∀ n ∈ ns, P n := by
  obtain ⟨ts, ts', hw, -, -, hp, -⟩ := h
  refine ⟨ts.filterMap (Token.content? names), ?_, hp.content⟩
  rw [identifiers?, hw.tokens?_eq hn, Option.map_some]

@[simp] theorem filterMap_content?_bareTokens (q : Quote) (k : String) :
    (bareTokens k).filterMap (Token.content? q) = [] := by
  simp [bareTokens, Token.content?]

@[simp] theorem content?_quoted (q q' : Quote) (x : List Char) :
    Token.content? q (.quoted q' x) = if q' = q then some (String.ofList x) else none := rfl

@[simp] theorem bracket_ne_single : Quote.bracket ≠ Quote.single := by decide

@[simp] theorem single_ne_bracket : Quote.single ≠ Quote.bracket := by decide

theorem Written.identifiers?_eq (hn : names = .double ∨ names = .bracket)
    (h : Written names ts s) :
    identifiers? names s = some (ts.filterMap (Token.content? names)) := by
  rw [identifiers?, h.tokens?_eq hn, Option.map_some]

end Lexical

/-! ## Names that SQL Server takes as texts -/

namespace SqlServer

open Lexical

variable {s : String} {ts : List Token}

theorem written_unicodeLiteral (text : String) :
    Written .bracket (bareTokens "N" ++ [.quoted .single text.toList]) (unicodeLiteral text) :=
  (Written.quoted (.inl rfl) text).cons (by decide)

/-- One more argument of a procedure. -/
theorem written_argument (h : Written .bracket ts s) (text : String) :
    Written .bracket (ts ++ bareTokens ", " ++ (bareTokens "N" ++ [.quoted .single text.toList]))
      (s ++ (", " ++ unicodeLiteral text)) := by
  rw [← String.append_assoc]
  exact h.glue (by decide) (written_unicodeLiteral text)

theorem written_guarded (path : String) (h : Written .bracket ts s) :
    Written .bracket
      (bareTokens "IF OBJECT_ID(" ++ (bareTokens "N" ++ [.quoted .single path.toList]) ++
        bareTokens ", " ++ (bareTokens "N" ++ [.quoted .single "D".toList]) ++
        bareTokens ") IS NOT NULL " ++ ts)
      ("IF OBJECT_ID(" ++ unicodeLiteral path ++ ", N'D') IS NOT NULL " ++ s) := by
  have hsplit : ", N'D') IS NOT NULL " = ", " ++ unicodeLiteral "D" ++ ") IS NOT NULL " := rfl
  have hobject : Written .bracket _ ("IF OBJECT_ID(" ++ unicodeLiteral path) :=
    (written_unicodeLiteral path).cons (by decide)
  have htype := written_argument hobject "D"
  rw [hsplit]
  simpa only [String.append_assoc] using htype.glue (k := ") IS NOT NULL ") (by decide) h

/-- Drops a constraint. -/
def dropStatement (table constraint : String) : String :=
  vocabulary.alterTable table ++ " DROP CONSTRAINT " ++ vocabulary.quoteName constraint

/-- Drops the constraint of a default if there is one of this name. -/
def guardedDrop (table constraint : String) : String :=
  "IF OBJECT_ID(" ++ unicodeLiteral (vocabulary.quoteName constraint) ++ ", N'D') IS NOT NULL " ++
    dropStatement table constraint

theorem written_dropStatement (table constraint : String) :
    Written .bracket
      (bareTokens "ALTER TABLE " ++ [.quoted .bracket table.toList] ++
        bareTokens " DROP CONSTRAINT " ++ [.quoted .bracket constraint.toList])
      (dropStatement table constraint) :=
  ((Written.quoted (.inr rfl) table).cons (k := "ALTER TABLE ") (by decide)).glue (by decide)
    (.quoted (.inr rfl) constraint)

theorem identifiers?_dropStatement (table constraint : String) :
    identifiers? .bracket (dropStatement table constraint) = some [table, constraint] := by
  rw [(written_dropStatement table constraint).identifiers?_eq (.inr rfl)]
  simp

theorem identifiers?_guardedDrop (table constraint : String) :
    identifiers? .bracket (guardedDrop table constraint) = some [table, constraint] := by
  rw [guardedDrop, (written_guarded _ (written_dropStatement table constraint)).identifiers?_eq
    (.inr rfl)]
  simp

end SqlServer

end SchemaDdl
