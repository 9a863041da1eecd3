import Std.Data.TreeMap
import SchemaDdl.Dialect.Informix
import SchemaDdl.Dialect.Postgresql
import SchemaDdl.Dialect.Sqlite
import SchemaDdl.Dialect.SqlServer

/-!
# The registry of dialects

Dialects with their capability tables, by the names of the dialects and in the order of those names.
-/

namespace SchemaDdl

structure RegisteredDialect where
  dialect : Dialect
  capabilities : CapabilityTable

/-- The dialects that are known, by name. -/
structure Registry where
  dialects : Std.TreeMap String RegisteredDialect

namespace Registry

def empty : Registry := ⟨∅⟩

/-- Adds a dialect in place of any other of the same name. -/
def register (r : Registry) (d : RegisteredDialect) : Registry :=
  ⟨r.dialects.insert d.dialect.name d⟩

/-- The four dialects of this library. -/
def builtin : Registry :=
  [⟨Informix.dialect, Informix.capabilities⟩,
   ⟨Postgresql.dialect, Postgresql.capabilities⟩,
   ⟨Sqlite.dialect, Sqlite.capabilities⟩,
   ⟨SqlServer.dialect, SqlServer.capabilities⟩].foldl register empty

def find (r : Registry) (name : String) : Except DdlError RegisteredDialect :=
  match r.dialects[name]? with
  | some d => .ok d
  | none => .error (.unknownDialect name)

/-- The dialects in the order of their names. -/
def toList (r : Registry) : List RegisteredDialect := r.dialects.toList.map (·.2)

def names (r : Registry) : List String := r.dialects.keys

end Registry

end SchemaDdl
