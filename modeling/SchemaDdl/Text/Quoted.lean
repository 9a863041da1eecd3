/-!
# Quoted text

Names and texts stand in a script between delimiters, with the closing delimiter written twice
wherever the content holds it. `Quote.encode` writes such a token and `Quote.read?` reads one back
from the front of a longer text. `read?_encode` says that reading finds the end of a token exactly
where writing put it, whatever the content holds, as long as what follows does not begin with the
closing delimiter.
-/

namespace SchemaDdl.Text

/-- The delimiters around a quoted token. -/
structure Quote where
  opening : Char
  /-- Closes a token, and is written twice inside one. -/
  closing : Char
deriving DecidableEq, Repr

namespace Quote

/-- Single quotes, around string literals. -/
def single : Quote := ⟨'\'', '\''⟩

/-- Double quotes, around identifiers in standard SQL. -/
def double : Quote := ⟨'"', '"'⟩

/-- Square brackets, around identifiers; only the closing one is doubled. -/
def bracket : Quote := ⟨'[', ']'⟩

def escape (q : Quote) : List Char → List Char
  | [] => []
  | c :: rest => if c = q.closing then c :: c :: q.escape rest else c :: q.escape rest

/-- The token that stands for `text`. -/
def encode (q : Quote) (text : String) : String :=
  String.ofList (q.opening :: (q.escape text.toList ++ [q.closing]))

/-- Content of a token up to its closing delimiter, and what follows it. -/
def readContent? (q : Quote) : List Char → Option (List Char × List Char)
  | [] => none
  | [c] => if c = q.closing then some ([], []) else none
  | c :: d :: rest =>
    if c = q.closing then
      if d = q.closing then (q.readContent? rest).map fun (text, after) => (c :: text, after)
      else some ([], d :: rest)
    else (q.readContent? (d :: rest)).map fun (text, after) => (c :: text, after)

/-- Reads one token from the front of a text. -/
def read? (q : Quote) : List Char → Option (List Char × List Char)
  | [] => none
  | c :: rest => if c = q.opening then q.readContent? rest else none

@[simp] theorem toList_encode (q : Quote) (text : String) :
    (q.encode text).toList = q.opening :: (q.escape text.toList ++ [q.closing]) := by
  simp [encode]

theorem readContent?_escape (q : Quote) (text after : List Char)
    (h : after.head? ≠ some q.closing) :
    q.readContent? (q.escape text ++ q.closing :: after) = some (text, after) := by
  induction text with
  | nil =>
    cases after with
    | nil => simp [escape, readContent?]
    | cons d rest =>
      have hd : d ≠ q.closing := by simpa using h
      simp [escape, readContent?, hd]
  | cons c rest ih =>
    by_cases hc : c = q.closing
    · simp [escape, hc, readContent?, ih]
    · cases hs : q.escape rest ++ q.closing :: after with
      | nil => simp at hs
      | cons d tail =>
        rw [hs] at ih
        simp [escape, hc, readContent?, hs, ih]

/-- A token is read back whole, and reading stops exactly behind it. -/
theorem read?_encode (q : Quote) (text : String) (after : List Char)
    (h : after.head? ≠ some q.closing) :
    q.read? ((q.encode text).toList ++ after) = some (text.toList, after) := by
  simp [read?, readContent?_escape q _ _ h]

end Quote

/-- A string literal: single quotes around the text. -/
def stringLiteral (text : String) : String := Quote.single.encode text

end SchemaDdl.Text
