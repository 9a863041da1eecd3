import SchemaDdl.Json.Basic

/-!
# Values of a known shape

What the readers of records and variants share. A record is an object whose members are its fields,
or an array of its fields in their order. A variant is an object with its name and its content, or
only its name, which stands for the content null.
-/

namespace SchemaDdl.Json

def bool? : Json → Option Bool
  | .bool value => some value
  | _ => none

def string? : Json → Option String
  | .string value => some value
  | _ => none

/-- The integer from `first` to `last` that a value is. -/
def integer? (first last : Int) : Json → Option Int
  | .integer value => if first ≤ value ∧ value ≤ last then some value else none
  | _ => none

/-- The items of an array. -/
def list? {α : Type} (item : Json → Option α) : Json → Option (List α)
  | .array items => items.mapM item
  | _ => none

/-- A value that null leaves out. -/
def nullable? {α : Type} (content : Json → Option α) : Json → Option (Option α)
  | .null => some none
  | value => (content value).map some

/-- The name and the content of a variant. -/
def variant? : Json → Option (String × Json)
  | .string name => some (name, .null)
  | .object [(name, content)] => some (name, content)
  | _ => none

/-- The name of a variant that has no content. -/
def bareVariant? (value : Json) : Option String :=
  match value.variant? with
  | some (name, .null) => some name
  | _ => none

/-- The fields of a record by their names, each at most once. -/
structure Record where
  fields : List (String × Json)

/-- The record with some of these fields. Members of other names are passed over; a field that
occurs twice, or an array of too many items, is refused. -/
def record? (names : List String) : Json → Option Record
  | .object members =>
    let fields := members.filter fun member => names.contains member.1
    if (fields.map (·.1)).Nodup then some ⟨fields⟩ else none
  | .array items => if items.length ≤ names.length then some ⟨names.zip items⟩ else none
  | _ => none

namespace Record

/-- The value of a field that must be there. -/
def required {α : Type} (r : Record) (name : String) (content : Json → Option α) : Option α :=
  (r.fields.lookup name).bind content

/-- The value of a field, with another in its place where it is missing. -/
def optional {α : Type} (r : Record) (name : String) (content : Json → Option α) (missing : α) :
    Option α :=
  match r.fields.lookup name with
  | some value => content value
  | none => some missing

end Record

mutual

/-- The value if everything in it is readable. An empty object as the content of a variant becomes
null. -/
def settled? : Json → Option Json
  | .unreadable => none
  | .array items => (settledItems? items).map .array
  | .object [(name, .object [])] => some (.object [(name, .null)])
  | .object members => (settledMembers? members).map .object
  | value => some value

/-- The items if everything in them is readable. -/
def settledItems? : List Json → Option (List Json)
  | [] => some []
  | item :: rest => do return (← settled? item) :: (← settledItems? rest)

/-- The members if everything in them is readable. -/
def settledMembers? : List (String × Json) → Option (List (String × Json))
  | [] => some []
  | (name, value) :: rest => do return (name, ← settled? value) :: (← settledMembers? rest)

end

end SchemaDdl.Json
