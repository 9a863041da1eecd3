/-!
# Texts in bytes

The bytes of a text in UTF-8, and the longest prefix of a text that fits a number of bytes.
`byteSize_takeBytes_le` and `takeBytes_isPrefix` say that it fits and is a prefix.

The functions that end in a question mark cut a text at a given byte, and give nothing where there
is no character boundary.
-/

namespace SchemaDdl.Text

def utf8 (s : String) : List UInt8 := s.toList.flatMap String.utf8EncodeChar

/-- Number of bytes that a run of characters takes. -/
def byteSize : List Char → Nat
  | [] => 0
  | c :: rest => c.utf8Size + byteSize rest

/-- The longest prefix of at most `limit` bytes, never ending inside a character. -/
def takeBytes : Nat → List Char → List Char
  | _, [] => []
  | limit, c :: rest =>
    if c.utf8Size ≤ limit then c :: takeBytes (limit - c.utf8Size) rest else []

theorem byteSize_takeBytes_le (limit : Nat) (cs : List Char) :
    byteSize (takeBytes limit cs) ≤ limit := by
  induction cs generalizing limit with
  | nil => simp [takeBytes, byteSize]
  | cons c rest ih =>
    by_cases h : c.utf8Size ≤ limit
    · have := ih (limit - c.utf8Size)
      simp only [takeBytes, h, if_true, byteSize]
      omega
    · simp [takeBytes, h, byteSize]

theorem takeBytes_isPrefix (limit : Nat) (cs : List Char) : takeBytes limit cs <+: cs := by
  induction cs generalizing limit with
  | nil => simp [takeBytes]
  | cons c rest ih =>
    by_cases h : c.utf8Size ≤ limit
    · simp [takeBytes, h, ih]
    · simp [takeBytes, h]

/-! ## Cutting at a byte -/

/-- The characters that take exactly the first `count` bytes. There are none if the text is shorter
or a character goes on behind these bytes. -/
def exactBytes? : Nat → List Char → Option (List Char)
  | 0, _ => some []
  | _ + 1, [] => none
  | count + 1, c :: rest =>
    if c.utf8Size ≤ count + 1 then
      (exactBytes? (count + 1 - c.utf8Size) rest).map (c :: ·)
    else none

def isBoundary (cs : List Char) (place : Nat) : Bool := (exactBytes? place cs).isSome

/-- Steps back from a place to a boundary, and never beyond the beginning. -/
def lastBoundary? (cs : List Char) : Nat → Option Nat
  | 0 => if isBoundary cs 0 then some 0 else none
  | place + 1 => if isBoundary cs (place + 1) then some (place + 1) else lastBoundary? cs place

/-- The prefix up to the last boundary within `limit` bytes. -/
def takeBytes? (limit : Nat) (cs : List Char) : Option (List Char) := do
  let place ← lastBoundary? cs (min limit (byteSize cs))
  exactBytes? place cs

/-- Shortens a text to `limit` bytes if it is longer. -/
def truncateBytes? (limit : Nat) (cs : List Char) : Option (List Char) :=
  if limit ≤ byteSize cs then exactBytes? limit cs else some cs

end SchemaDdl.Text
