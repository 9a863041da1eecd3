import SchemaDdl.Error

/-!
# Capabilities

A capability table lists the kinds that a dialect supports, up to which size and scale, and in which
roles of a column. It is consulted before a change is rendered and never while it is rendered.

An entry without a maximal size is for kinds without a size, and one with a maximal size is for
sized kinds; a kind may have an entry of either sort.
-/

namespace SchemaDdl

/-- One supported shape of a kind. -/
structure Capability where
  kind : Kind
  /-- The largest size, or none where the kind has no size. -/
  maxSize : Option Nat := none
  /-- The largest scale, or none where the kind has no scale. -/
  maxScale : Option Nat := none
  /-- Whether the kind may be in a primary key. -/
  primaryKey : Bool := false
  identity : Bool := false
  /-- Advice to show where the kind is used. -/
  warning : Option String := none
deriving DecidableEq, Repr

/-- The roles that a column is to play. -/
structure Usage where
  primaryKey : Bool := false
  identity : Bool := false
deriving DecidableEq, Repr

namespace Capability

/-- A kind without a size and without a special role. -/
def of (kind : Kind) : Capability := { kind }

def upToSize (c : Capability) (max : Nat) : Capability := { c with maxSize := some max }

def upToScale (c : Capability) (max : Nat) : Capability := { c with maxScale := some max }

def forPrimaryKey (c : Capability) : Capability := { c with primaryKey := true }

/-- The entry, also for identity columns and with them for primary keys. -/
def forIdentity (c : Capability) : Capability := { c with primaryKey := true, identity := true }

def withWarning (c : Capability) (warning : String) : Capability :=
  { c with warning := some warning }

/-- Compares the size of a kind with the entry. -/
def checkSize (c : Capability) (k : SizedKind) : Except Rejection Unit :=
  match c.maxSize, k.positiveSize with
  | none, some size => .error (.sizeNotAccepted size)
  | some _, none => .error .sizeRequired
  | some max, some size => if max < size then .error (.sizeTooLarge size max) else .ok ()
  | none, none => .ok ()

/-- Compares the scale of a kind with the entry; a kind may always do without. -/
def checkScale (c : Capability) (k : SizedKind) : Except Rejection Unit :=
  match c.maxScale, k.positiveScale with
  | none, some scale => .error (.scaleNotAccepted scale)
  | some max, some scale => if max < scale then .error (.scaleTooLarge scale max) else .ok ()
  | _, none => .ok ()

/-- Compares the roles of a column with the entry. -/
def checkUsage (c : Capability) (usage : Usage) : Except Rejection Unit :=
  if usage.primaryKey && !c.primaryKey then .error .notForPrimaryKey
  else if usage.identity && !c.identity then .error .notForIdentity
  else .ok ()

/-- Whether the entry accepts a kind in these roles: its size first, then its scale, then the
roles. -/
def check (c : Capability) (k : SizedKind) (usage : Usage) : Except Rejection Unit := do
  c.checkSize k
  c.checkScale k
  c.checkUsage usage

end Capability

structure CapabilityTable where
  /-- The dialect that messages name. -/
  dialect : String
  entries : List Capability
deriving DecidableEq, Repr

namespace CapabilityTable

def supports (t : CapabilityTable) (kind : Kind) : Bool := t.entries.any (·.kind == kind)

/-- The entries for a kind, in the order of the table. -/
def entriesFor (t : CapabilityTable) (kind : Kind) : List Capability :=
  t.entries.filter (·.kind == kind)

/-- The warning of the first entry that accepts a kind, or the reason of the last one, where
`reason` stands for no entry at all. -/
def firstAccepting (k : SizedKind) (usage : Usage) :
    List Capability → Rejection → Except Rejection (Option String)
  | [], reason => .error reason
  | c :: rest, _ =>
    match c.check k usage with
    | .ok () => .ok c.warning
    | .error reason => firstAccepting k usage rest reason

/-- Checks the kind of a column in its roles; gives the advice of the entry that accepts it. -/
def validate (t : CapabilityTable) (column : String) (k : SizedKind) (usage : Usage) :
    Except DdlError (Option String) :=
  (firstAccepting k usage (t.entriesFor k.kind) .undeclared).mapError
    (.kindNotSupported column k.kind t.dialect)

/-- Checks one column; its advice names the column. -/
def validateColumn (t : CapabilityTable) (column : Column) (usage : Usage) :
    Except DdlError (List String) := do
  let warning ← t.validate column.name column.kind usage
  return (warning.map fun text => s!"column '{column.name}': {text}").toList

end CapabilityTable

namespace Change

/-- The columns that a change defines, in order, with their roles. -/
def definedColumns : Change → List (Column × Usage)
  | createTable _ columns _ => columns.map fun c => (c.column, ⟨c.primaryKey, c.identity⟩)
  | addColumn _ column | alterColumn _ column | dropDefault _ column => [(column, {})]
  | _ => []

/-- Checks every column that the change defines, and gives the advice for them in order. The first
column that is refused decides. -/
def validate (change : Change) (table : CapabilityTable) : Except DdlError (List String) := do
  let warnings ← change.definedColumns.mapM fun (column, usage) =>
    table.validateColumn column usage
  return warnings.flatten

end Change

end SchemaDdl
