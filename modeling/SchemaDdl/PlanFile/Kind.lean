import SchemaDdl.Json.Decode
import SchemaDdl.Schema.Kind

/-!
# Kinds in plan files

A kind is its name; a sized kind is a record in which size and scale may be missing.
-/

namespace SchemaDdl

namespace Json

/-- A number of thirty-two bits without a sign. -/
def word? (value : Json) : Option Nat := (value.integer? 0 4294967295).map Int.toNat

end Json

namespace Kind

def toJson (kind : Kind) : Json := .string kind.name

def ofJson? (value : Json) : Option Kind := value.bareVariant?.bind ofName?

end Kind

namespace SizedKind

/-- The sized kind in a plan file, without what it does not have. -/
def toJson (k : SizedKind) : Json :=
  .object (("tag", k.kind.toJson) ::
    (k.size.map fun n => ("size", Json.integer n)).toList ++
    (k.scale.map fun n => ("scale", Json.integer n)).toList)

def ofJson? (value : Json) : Option SizedKind := do
  let fields ← value.record? ["tag", "size", "scale"]
  let kind ← fields.required "tag" Kind.ofJson?
  let size ← fields.optional "size" (Json.nullable? Json.word?) none
  let scale ← fields.optional "scale" (Json.nullable? Json.word?) none
  return ⟨kind, size, scale⟩

end SizedKind

end SchemaDdl
