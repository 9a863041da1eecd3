import SchemaDdl.Binary64.Decimal
import SchemaDdl.Error
import SchemaDdl.Text.Quoted

/-!
# Clauses that dialects share

The pieces that the dialects build their types and literals from: keywords with a size or a
precision and scale, and the literals that every dialect writes alike.
-/

namespace SchemaDdl

namespace SizedKind

/-- A keyword with the size, if there is one. -/
def sizedClause (k : SizedKind) (keyword : String) : String :=
  match k.positiveSize with
  | some n => s!"{keyword}({n})"
  | none => keyword

/-- A keyword with precision and scale, as far as they are given. -/
def decimalClause (k : SizedKind) (keyword : String) : String :=
  match k.positiveSize, k.scale with
  | some p, some s => s!"{keyword}({p}, {s})"
  | some p, none => s!"{keyword}({p})"
  | none, _ => keyword

end SizedKind

namespace Binary64

/-- A float in SQL: the fewest digits that read back, all in their places, the larger of two that
are equally near. -/
def sql (x : Binary64) : String := (x.shortest .up).positional

end Binary64

def finiteFloat (x : Binary64) (dialect : String) : Except DdlError String :=
  if x.isFinite then .ok x.sql else .error (.unmappedLiteral .nonFiniteFloat dialect)

namespace Literal

/-- A literal in the form that all dialects have in common, if there is one. -/
def common (l : Literal) (dialect : String) : Except DdlError (Option String) :=
  match l with
  | null => .ok (some "NULL")
  | int n => .ok (some (toString n.toInt))
  | float x => (finiteFloat x dialect).map some
  | text s => .ok (some (Text.stringLiteral s))
  | bool _ | date _ | dateTime _ | time _ | binary _ => .ok none

/-- The error for a literal that a dialect cannot write. -/
def unmapped (l : Literal) (dialect : String) : DdlError := .unmappedLiteral l.form dialect

/-- A literal in the common form; where there is none, the dialect cannot write it. -/
def commonOrUnmapped (l : Literal) (dialect : String) : Except DdlError String := do
  match ← l.common dialect with
  | some sql => return sql
  | none => throw (l.unmapped dialect)

theorem commonOrUnmapped_float (x : Binary64) (dialect : String) :
    (float x).commonOrUnmapped dialect = finiteFloat x dialect := by
  unfold commonOrUnmapped
  cases h : finiteFloat x dialect <;> simp only [common, h] <;> rfl

end Literal

end SchemaDdl
