import SchemaDdl.Schema.Change

/-!
# Errors

Why a change cannot be validated or rendered. Every error is a cause with its data, and `message`
holds the wording.
-/

namespace SchemaDdl

/-- Why an entry of a capability table turns a kind down. -/
inductive Rejection where
  /-- No entry is for the kind. -/
  | undeclared
  | sizeNotAccepted (size : Nat)
  | sizeRequired
  | sizeTooLarge (size max : Nat)
  | scaleNotAccepted (scale : Nat)
  | scaleTooLarge (scale max : Nat)
  | notForPrimaryKey
  | notForIdentity
deriving DecidableEq, Repr

namespace Rejection

def message : Rejection → String
  | undeclared => "the kind is not declared"
  | sizeNotAccepted size => s!"a size ({size}) is not accepted"
  | sizeRequired => "a size is required"
  | sizeTooLarge size max => s!"size {size} exceeds the maximum of {max}"
  | scaleNotAccepted scale => s!"a scale ({scale}) is not accepted"
  | scaleTooLarge scale max => s!"scale {scale} exceeds the maximum of {max}"
  | notForPrimaryKey => "it cannot be used in a primary key"
  | notForIdentity => "it cannot be used as an identity column"

end Rejection

/-- What a caller has to ensure and has not. -/
inductive Precondition where
  /-- A constraint or an index covers no column. -/
  | columnsNeeded (operation : Operation) (table : String)
  /-- A default is to be dropped, and the column after the change still has one. -/
  | defaultRemains (table column : String)
  /-- A default is to be added, and the column has none. -/
  | defaultMissing (table column : String)
  /-- An identity column is not the only column of the primary key. -/
  | identityNotSoleKey (table column : String)
deriving DecidableEq, Repr

namespace Precondition

def message : Precondition → String
  | columnsNeeded operation table =>
    s!"{operation.label} on '{table}' needs at least one column"
  | defaultRemains table column =>
    s!"cannot drop the default of '{table}.{column}' while the column still models one"
  | defaultMissing table column =>
    s!"cannot add a default to '{table}.{column}': the column models none"
  | identityNotSoleKey table column =>
    s!"identity column '{table}.{column}' must be the table's only primary key column"

end Precondition

/-- Why a change or a migration is refused. -/
inductive DdlError where
  | unsupported (operation : Operation) (dialect : String)
  /-- The dialect has no type for the kind. -/
  | unmappedKind (kind : Kind) (dialect : String)
  | unmappedLiteral (form : LiteralForm) (dialect : String)
  /-- The dialect has no expression for the sentinel. -/
  | unknownSentinel (sentinel : Sentinel) (dialect : String)
  | precondition (violated : Precondition)
  /-- A label is longer than it may be; both lengths are in characters. -/
  | labelTooLong (length max : Nat)
  /-- The dialect does not declare the kind for the size, scale and role of the column. -/
  | kindNotSupported (column : String) (kind : Kind) (dialect : String) (reason : Rejection)
  | unknownDialect (name : String)
deriving DecidableEq, Repr

namespace DdlError

def message : DdlError → String
  | unsupported operation dialect =>
    s!"{operation.label} is not supported by the {dialect} dialect"
  | unmappedKind kind dialect =>
    s!"value kind {kind.name} has no type mapping in the {dialect} dialect"
  | unmappedLiteral form dialect =>
    s!"{form.label} literals cannot be rendered by the {dialect} dialect"
  | unknownSentinel sentinel dialect =>
    s!"default sentinel {sentinel.name} is not recognized by the {dialect} dialect"
  | precondition violated => s!"precondition violated: {violated.message}"
  | labelTooLong length max =>
    s!"label of {length} characters exceeds the maximum length of {max}"
  | kindNotSupported column kind dialect reason =>
    s!"column '{column}' uses {kind.name} which the {dialect} dialect does not support: " ++
      reason.message
  | unknownDialect name => s!"unknown dialect: {name}"

end DdlError

end SchemaDdl
