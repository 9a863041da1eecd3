import SchemaDdl.Binary64.Basic
import SchemaDdl.Calendar.DateTime

/-!
# Literals and defaults

The values that a column may have as its default: a literal, or an expression of the server that is
known by name.
-/

namespace SchemaDdl

open Calendar (Date Time DateTime)

inductive Literal where
  | null
  | bool (value : Bool)
  | int (value : Int64)
  | float (value : Binary64)
  | text (value : String)
  | date (value : Date)
  | dateTime (value : DateTime)
  | time (value : Time)
  | binary (bytes : List UInt8)
deriving DecidableEq, Repr

/-- The forms of literals that messages tell apart. -/
inductive LiteralForm where
  | null
  | boolean
  | integer
  | float
  | text
  | date
  | dateTime
  | time
  | binary
  /-- An infinity, or a float that is not a number. -/
  | nonFiniteFloat
deriving DecidableEq, Repr

namespace LiteralForm

/-- What messages call the form. -/
def label : LiteralForm → String
  | null => "null"
  | boolean => "boolean"
  | integer => "integer"
  | float => "float"
  | text => "text"
  | date => "date"
  | dateTime => "date-time"
  | time => "time"
  | binary => "binary"
  | nonFiniteFloat => "non-finite float"

end LiteralForm

namespace Literal

def form : Literal → LiteralForm
  | null => .null
  | bool _ => .boolean
  | int _ => .integer
  | float _ => .float
  | text _ => .text
  | date _ => .date
  | dateTime _ => .dateTime
  | time _ => .time
  | binary _ => .binary

end Literal

/-- An expression of the server, known by name. -/
inductive Sentinel where
  | currentDateTime
  | currentUtcDateTime
  | newGuid
deriving DecidableEq, Repr

namespace Sentinel

def all : List Sentinel := [currentDateTime, currentUtcDateTime, newGuid]

/-- The name that plans and messages use. -/
def name : Sentinel → String
  | currentDateTime => "CurrentDateTime"
  | currentUtcDateTime => "CurrentUtcDateTime"
  | newGuid => "NewGuid"

def ofName? (name : String) : Option Sentinel := all.find? (·.name == name)

end Sentinel

inductive ColumnDefault where
  | none
  | literal (value : Literal)
  | sentinel (value : Sentinel)
deriving DecidableEq, Repr

namespace ColumnDefault

def isSome : ColumnDefault → Bool
  | none => false
  | _ => true

theorem isSome_iff_ne_none {d : ColumnDefault} : d.isSome = true ↔ d ≠ none := by
  cases d <;> simp [isSome]

theorem not_isSome_iff_eq_none {d : ColumnDefault} : ¬d.isSome = true ↔ d = none := by
  cases d <;> simp [isSome]

end ColumnDefault

end SchemaDdl
