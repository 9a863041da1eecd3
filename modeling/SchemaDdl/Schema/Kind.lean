/-!
# Kinds of values

A `Kind` classifies the data of a column independently of any dialect; a `SizedKind` adds the length
of a text or the precision and scale of a number.
-/

namespace SchemaDdl

/-- Portable classification of a column's data. -/
inductive Kind where
  /-- Text of variable length, not Unicode. -/
  | ansiString
  /-- Text of fixed length, not Unicode. -/
  | ansiStringFixedLength
  | binary
  | boolean
  /-- Unsigned integer of 8 bits. -/
  | byte
  | currency
  | date
  | dateTime
  /-- Date and time with a wider range and finer precision. -/
  | dateTime2
  /-- Date and time with an offset from UTC. -/
  | dateTimeOffset
  /-- Number with a fixed point, whose size is its precision. -/
  | decimal
  /-- Floating-point number of double precision. -/
  | double
  | guid
  | int16
  | int32
  | int64
  /-- Signed integer of 8 bits. -/
  | sByte
  /-- Floating-point number of single precision. -/
  | single
  /-- Unicode text of variable length. -/
  | string
  /-- Unicode text of fixed length. -/
  | stringFixedLength
  | time
  | uInt16
  | uInt32
  | uInt64
  /-- Number of variable precision. -/
  | varNumeric
  | xml
deriving DecidableEq, Repr

namespace Kind

/-- Every kind, in alphabetical order of the names. -/
def all : List Kind :=
  [ansiString, ansiStringFixedLength, binary, boolean, byte, currency, date, dateTime, dateTime2,
   dateTimeOffset, decimal, double, guid, int16, int32, int64, sByte, single, string,
   stringFixedLength, time, uInt16, uInt32, uInt64, varNumeric, xml]

/-- The name that plans, listings and messages use. -/
def name : Kind → String
  | ansiString => "AnsiString"
  | ansiStringFixedLength => "AnsiStringFixedLength"
  | binary => "Binary"
  | boolean => "Boolean"
  | byte => "Byte"
  | currency => "Currency"
  | date => "Date"
  | dateTime => "DateTime"
  | dateTime2 => "DateTime2"
  | dateTimeOffset => "DateTimeOffset"
  | decimal => "Decimal"
  | double => "Double"
  | guid => "Guid"
  | int16 => "Int16"
  | int32 => "Int32"
  | int64 => "Int64"
  | sByte => "SByte"
  | single => "Single"
  | string => "String"
  | stringFixedLength => "StringFixedLength"
  | time => "Time"
  | uInt16 => "UInt16"
  | uInt32 => "UInt32"
  | uInt64 => "UInt64"
  | varNumeric => "VarNumeric"
  | xml => "Xml"

def ofName? (name : String) : Option Kind := all.find? (·.name == name)

end Kind

/-- A kind with its size and scale. For texts and bytes the size is a length; for decimals it is the
precision, and the scale is the number of digits behind the point. -/
structure SizedKind where
  kind : Kind
  size : Option Nat := none
  scale : Option Nat := none
deriving DecidableEq, Repr

namespace SizedKind

def unsized (kind : Kind) : SizedKind := ⟨kind, none, none⟩

def sized (kind : Kind) (size : Nat) : SizedKind := ⟨kind, some size, none⟩

def decimal (precision scale : Nat) : SizedKind := ⟨.decimal, some precision, some scale⟩

/-- The size, if it is positive: a size of zero means none. -/
def positiveSize (k : SizedKind) : Option Nat := k.size.filter (0 < ·)

/-- The scale, if it is positive. -/
def positiveScale (k : SizedKind) : Option Nat := k.scale.filter (0 < ·)

end SizedKind

end SchemaDdl
