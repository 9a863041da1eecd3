import SchemaDdl.Binary64.Decimal
import SchemaDdl.Calendar.Parser
import SchemaDdl.Json.Decode
import SchemaDdl.Schema.Literal

/-!
# Literals and defaults in plan files

A literal is a variant that is named for its form; dates and times are texts in it, and bytes are
numbers.
-/

namespace SchemaDdl

namespace Json

/-- The double that a number is nearest to. -/
def float? : Json → Option Binary64
  | .integer value => (Decimal.mk (value < 0) value.natAbs 0).toBinary64?
  | .real value => some value
  | _ => none

def byte? (value : Json) : Option UInt8 := (value.integer? 0 255).map fun n => UInt8.ofNat n.toNat

/-- An integer of sixty-four bits with a sign. -/
def int64? (value : Json) : Option Int64 :=
  (value.integer? Int64.minValue.toInt Int64.maxValue.toInt).map Int64.ofInt

end Json

open Calendar (Date Time DateTime Fraction)

namespace Literal

def toJson : Literal → Json
  | null => .string "Null"
  | bool value => .object [("Bool", .bool value)]
  | int value => .object [("Int", .integer value.toInt)]
  | float value => .object [("Float", .real value)]
  | text value => .object [("Text", .string value)]
  | date value => .object [("Date", .string value.iso)]
  | dateTime value => .object [("DateTime", .string (value.text "T" .asNeeded))]
  | time value => .object [("Time", .string (value.text .asNeeded))]
  | binary bytes => .object [("Binary", .array (bytes.map fun b => .integer b.toNat))]

def ofJson? (value : Json) : Option Literal :=
  match value.variant? with
  | some ("Null", .null) => some null
  | some ("Bool", content) => content.bool?.map bool
  | some ("Int", content) => content.int64?.map int
  | some ("Float", content) => content.float?.map float
  | some ("Text", content) => content.string?.map text
  | some ("Date", content) => (content.string?.bind Date.ofText?).map date
  | some ("DateTime", content) => (content.string?.bind DateTime.ofText?).map dateTime
  | some ("Time", content) => (content.string?.bind Time.ofText?).map time
  | some ("Binary", content) => (content.list? Json.byte?).map binary
  | _ => none

end Literal

namespace Sentinel

def toJson (s : Sentinel) : Json := .string s.name

def ofJson? (value : Json) : Option Sentinel := value.bareVariant?.bind ofName?

end Sentinel

namespace ColumnDefault

def toJson : ColumnDefault → Json
  | none => .string "None"
  | literal value => .object [("Literal", value.toJson)]
  | sentinel value => .object [("Sentinel", value.toJson)]

def ofJson? (value : Json) : Option ColumnDefault :=
  match value.variant? with
  | some ("None", .null) => some none
  | some ("Literal", content) => (Literal.ofJson? content).map literal
  | some ("Sentinel", content) => (Sentinel.ofJson? content).map sentinel
  | _ => Option.none

end ColumnDefault

end SchemaDdl
