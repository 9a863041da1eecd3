import SchemaDdl.Binary64.Basic

/-!
# JSON values

A value is what a text of JSON stands for, with the members of an object in the order in which they
are written. Some texts follow the grammar and still stand for no value, such as a number beyond the
range of doubles: these are `unreadable`, and do no harm where nobody asks for the value.
-/

namespace SchemaDdl

inductive Json where
  | null
  | bool (value : Bool)
  /-- A number without a point and an exponent that sixty-four bits hold. -/
  | integer (value : Int)
  /-- Any other number. -/
  | real (value : Binary64)
  | string (value : String)
  | array (items : List Json)
  | object (members : List (String × Json))
  /-- A text that stands for no value: a number beyond the doubles, half of a surrogate pair, or
  containers that are nested too deeply. -/
  | unreadable

namespace Json

/-- The most containers that may be nested. -/
def maxDepth : Nat := 127

end Json

end SchemaDdl
