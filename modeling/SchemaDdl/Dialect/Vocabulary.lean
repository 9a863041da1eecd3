import SchemaDdl.Dialect.Clause
import SchemaDdl.Naming

/-!
# Vocabularies

How a dialect spells the pieces that statements are made of. A `Spelling` has the smallest of them:
identifiers, types and values. A `Vocabulary` adds the clauses built from these, each with a
standard form that a dialect may replace by its own. Statements are built from a vocabulary and
never spell these pieces themselves.
-/

namespace SchemaDdl

/-- How a dialect spells identifiers, types and values. -/
structure Spelling where
  /-- The name that the dialect is known by. -/
  name : String
  /-- The longest identifier in bytes. -/
  maxIdentifierLength : Nat
  quote : Text.Quote := .double
  typeClause : SizedKind → Except DdlError String
  identityClause : SizedKind → Except DdlError String :=
    fun _ => .error (.unsupported .identityColumn name)
  literal : Literal → Except DdlError String
  sentinel : Sentinel → Except DdlError String

namespace Spelling

def quoteName (s : Spelling) (name : String) : String := s.quote.encode name

/-- Identifiers, separated by commas. -/
def quoteList (s : Spelling) (names : List String) : String :=
  ", ".intercalate (names.map s.quoteName)

/-- A derived name that the dialect accepts. -/
def objectName (s : Spelling) (kind : ObjectKind) (table : String) (columns : List String) :
    String :=
  (ObjectName.mk kind table columns).text s.maxIdentifierLength

/-- The name of the constraint that holds the default of a column. -/
def defaultConstraintName (s : Spelling) (table column : String) : String :=
  s.objectName .defaultConstraint table [column]

/-- The beginning of a statement that alters a table. -/
def alterTable (s : Spelling) (table : String) : String := "ALTER TABLE " ++ s.quoteName table

/-- The expression of a default, if there is one. -/
def defaultExpression (s : Spelling) : ColumnDefault → Except DdlError (Option String)
  | .none => .ok none
  | .sentinel v => (s.sentinel v).map some
  | .literal l => (s.literal l).map some

/-- The expression of a default that must be there. -/
def requiredDefault (s : Spelling) (table : String) (column : Column) :
    Except DdlError String := do
  match ← s.defaultExpression column.default with
  | some expression => return expression
  | none => throw (.precondition (.defaultMissing table column.name))

theorem defaultExpression_eq_none {s : Spelling} {d : ColumnDefault} :
    s.defaultExpression d = .ok none ↔ d = .none := by
  cases d with
  | none => simp [defaultExpression]
  | literal l => cases h : s.literal l <;> simp [defaultExpression, h, Except.map]
  | sentinel v => cases h : s.sentinel v <;> simp [defaultExpression, h, Except.map]

end Spelling

namespace Standard

/-- The default in a column definition, behind a space; empty if there is none. -/
def defaultClause (s : Spelling) (_table : String) (column : Column) : Except DdlError String := do
  match ← s.defaultExpression column.default with
  | none => return ""
  | some expression => return " DEFAULT " ++ expression

/-- A column definition: name, type, default and nullability. -/
def columnDefinition (s : Spelling) (defaultClause : String → Column → Except DdlError String)
    (table : String) (column : Column) (identity : Bool) : Except DdlError String := do
  let type ← if identity then s.identityClause column.kind else s.typeClause column.kind
  let default ← defaultClause table column
  return s.quoteName column.name ++ " " ++ type ++ default ++
    (if column.nullable then "" else " NOT NULL")

theorem columnDefinition_eq_bind (s : Spelling)
    (defaultClause : String → Column → Except DdlError String) (table : String) (column : Column)
    (identity : Bool) :
    columnDefinition s defaultClause table column identity =
      (if identity then s.identityClause column.kind else s.typeClause column.kind) >>= fun type =>
        defaultClause table column >>= fun default =>
          .ok (s.quoteName column.name ++ " " ++ type ++ default ++
            (if column.nullable then "" else " NOT NULL")) := by
  cases identity <;> rfl

/-- The primary key of a new table; an empty name leaves the constraint without one. -/
def primaryKeyClause (s : Spelling) (name : String) (columns : List String) : String :=
  let clause := "PRIMARY KEY (" ++ s.quoteList columns ++ ")"
  if name.isEmpty then clause else "CONSTRAINT " ++ s.quoteName name ++ " " ++ clause

/-- The unique constraint of a new table over columns. -/
def uniqueClause (s : Spelling) (columns : List String) : String :=
  "UNIQUE (" ++ s.quoteList columns ++ ")"

end Standard

/-- How a dialect spells the pieces of statements. -/
structure Vocabulary extends Spelling where
  defaultClause : (table : String) → Column → Except DdlError String :=
    Standard.defaultClause toSpelling
  columnDefinition : (table : String) → Column → (identity : Bool) → Except DdlError String :=
    Standard.columnDefinition toSpelling defaultClause
  primaryKeyClause : (name : String) → (columns : List String) → String :=
    Standard.primaryKeyClause toSpelling
  uniqueClause : (columns : List String) → String :=
    Standard.uniqueClause toSpelling

end SchemaDdl
