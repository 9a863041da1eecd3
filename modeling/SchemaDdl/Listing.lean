import SchemaDdl.Registry
import SchemaDdl.Text.Blank

/-!
# Listings

The dialects of a registry and the capabilities of a dialect as text, one line for each.
-/

namespace SchemaDdl

namespace Registry

/-- One line for each dialect: its name and the longest identifier. -/
def listing (r : Registry) : String :=
  String.join (r.toList.map fun d =>
    s!"{Text.padRight 12 d.dialect.name} max identifier length {d.dialect.maxIdentifierLength}\n")

end Registry

namespace Capability

/-- A limit, or a dash where there is none. -/
def limitText (limit : Option Nat) : String := limit.elim "-" toString

def roles (c : Capability) : List String :=
  (if c.primaryKey then ["primary key"] else []) ++ (if c.identity then ["identity"] else [])

/-- Kind, limits, roles and advice on one line. -/
def describe (c : Capability) : String :=
  Text.trimEnd (
    Text.padRight 22 c.kind.name ++
    " size " ++ Text.padLeft 10 (limitText c.maxSize) ++
    "  scale " ++ Text.padLeft 3 (limitText c.maxScale) ++
    "  " ++ ", ".intercalate c.roles ++
    c.warning.elim "" fun text => "  (" ++ text ++ ")")

end Capability

namespace RegisteredDialect

/-- The name of the dialect and one line for each capability. -/
def listing (d : RegisteredDialect) : String :=
  d.dialect.name ++ "\n" ++
    String.join (d.capabilities.entries.map fun c => "  " ++ c.describe ++ "\n")

end RegisteredDialect

end SchemaDdl
