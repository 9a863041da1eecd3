/-!
# Blanks

The white space of the Unicode standard, as a table of the property `White_Space`.
-/

namespace SchemaDdl.Text

/-- Code points with the property `White_Space`, as closed ranges in increasing order. -/
def blankRanges : List (Nat × Nat) :=
  [(0x0009, 0x000D), (0x0020, 0x0020), (0x0085, 0x0085), (0x00A0, 0x00A0), (0x1680, 0x1680),
   (0x2000, 0x200A), (0x2028, 0x2029), (0x202F, 0x202F), (0x205F, 0x205F), (0x3000, 0x3000)]

def isBlank (c : Char) : Bool :=
  blankRanges.any fun (first, last) => first ≤ c.toNat && c.toNat ≤ last

/-- The text from its first character that is not a blank. -/
def skipBlanks (cs : List Char) : List Char := cs.dropWhile isBlank

/-- The text up to its last character that is not a blank. -/
def trimEnd (s : String) : String :=
  String.ofList (skipBlanks s.toList.reverse).reverse

end SchemaDdl.Text
