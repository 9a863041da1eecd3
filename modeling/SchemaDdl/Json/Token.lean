import SchemaDdl.Json.Number
import SchemaDdl.Json.Text

/-!
# Tokens of JSON

A text of JSON is read one character after the other into tokens. A keyword or a number is a word:
it extends to the next blank, mark or quote, and is then looked at as a whole. `Token.scan?_quoted`
says that a quoted text is read as one token with the same content, whatever it holds and whatever
follows it.
-/

namespace SchemaDdl.Json

inductive Token where
  | openObject
  | closeObject
  | openArray
  | closeArray
  | colon
  | comma
  /-- A text, unless its escapes stand for none. -/
  | text (content : Option String)
  /-- A keyword or a number. -/
  | word (value : Json)

namespace Token

/-- Whether a character may stand between tokens. -/
def isSpace (c : Char) : Bool := c == ' ' || c == '\n' || c == '\r' || c == '\t'

/-- The token that is a single character. -/
def mark? : Char → Option Token
  | '\x7b' => some openObject
  | '\x7d' => some closeObject
  | '[' => some openArray
  | ']' => some closeArray
  | ':' => some colon
  | ',' => some comma
  | _ => none

/-- The value of a keyword or a number. -/
def wordValue? (cs : List Char) : Option Json :=
  match cs with
  | ['n', 'u', 'l', 'l'] => some .null
  | ['t', 'r', 'u', 'e'] => some (.bool true)
  | ['f', 'a', 'l', 's', 'e'] => some (.bool false)
  | _ => (Numeral.ofWord? cs).map (·.value)

/-- The text that code units stand for, which are listed last first. -/
def ofUnits (units : List Nat) : Token :=
  text ((charsOfUnits? units.reverse).map String.ofList)

/-- Where reading stands. Characters and code units are listed last first. -/
inductive Mode where
  | between
  | word (read : List Char)
  | text (units : List Nat)
  /-- Behind a backslash in a text. -/
  | escape (units : List Nat)
  /-- In an escape by number, with the digits that are missing and the value so far. -/
  | number (units : List Nat) (missing value : Nat)

/-- What a character between tokens begins. -/
def start (c : Char) : List Token × Mode :=
  if isSpace c then ([], .between)
  else if c = '"' then ([], .text [])
  else match mark? c with
    | some token => ([token], .between)
    | none => ([], .word [c])

/-- The tokens that end with a character, and where reading stands behind it. -/
def step (mode : Mode) (c : Char) : Option (List Token × Mode) :=
  match mode with
  | .between => some (start c)
  | .word read =>
    if isSpace c || c == '"' || (mark? c).isSome then
      (wordValue? read.reverse).map fun value => (word value :: (start c).1, (start c).2)
    else some ([], .word (c :: read))
  | .text units =>
    if c = '"' then some ([ofUnits units], .between)
    else if c = '\\' then some ([], .escape units)
    else if c.toNat < 0x20 then none
    else some ([], .text (c.toNat :: units))
  | .escape units =>
    if c = 'u' then some ([], .number units 4 0)
    else (escapedUnit? c).map fun unit => ([], .text (unit :: units))
  | .number units missing value =>
    (hexValue? c).map fun digit =>
      let value := 16 * value + digit
      ([], if missing ≤ 1 then .text (value :: units) else .number units (missing - 1) value)

/-- The tokens that end with the text. -/
def finish : Mode → Option (List Token)
  | .between => some []
  | .word read => (wordValue? read.reverse).map fun value => [word value]
  | _ => none

/-- The tokens of a text. -/
def scan? (mode : Mode) : List Char → Option (List Token)
  | [] => finish mode
  | c :: rest => do
    let (tokens, next) ← step mode c
    return tokens ++ (← scan? next rest)

/-- Inside a text, the escape of a character is read as the unit of the character. -/
theorem scan?_escapeChar (c : Char) (units : List Nat) (rest : List Char) :
    scan? (.text units) (escapeChar c ++ rest) = scan? (.text (c.toNat :: units)) rest := by
  have letter : ∀ (l : Char) (unit : Nat), l ≠ 'u' → escapedUnit? l = some unit →
      scan? (.text units) ('\\' :: l :: rest) = scan? (.text (unit :: units)) rest := by
    intro l unit hl hunit
    simp [scan?, step, hl, hunit]
  unfold escapeChar
  split
  · next h => subst h; exact letter _ _ (by decide) rfl
  split
  · next h => subst h; exact letter _ _ (by decide) rfl
  split
  · next h => subst h; exact letter _ _ (by decide) rfl
  split
  · next h => subst h; exact letter _ _ (by decide) rfl
  split
  · next h => subst h; exact letter _ _ (by decide) rfl
  split
  · next h => subst h; exact letter _ _ (by decide) rfl
  split
  · next h => subst h; exact letter _ _ (by decide) rfl
  split
  · next small =>
    have zero : hexValue? '0' = some 0 := rfl
    have upper := hexValue?_hexDigit (c.toNat / 16) (by omega)
    have lower := hexValue?_hexDigit (c.toNat % 16) (by omega)
    have value : 16 * (c.toNat / 16) + c.toNat % 16 = c.toNat := Nat.div_add_mod c.toNat 16
    simp [scan?, step, zero, upper, lower, value]
  · next noQuote noBackslash _ _ _ _ _ plain =>
    simp [scan?, step, noQuote, noBackslash, plain]

/-- The escapes of a run of characters are read as the units of the characters. -/
theorem scan?_flatMap_escapeChar (cs : List Char) (units : List Nat) (rest : List Char) :
    scan? (.text units) (cs.flatMap escapeChar ++ rest) =
      scan? (.text ((cs.map Char.toNat).reverse ++ units)) rest := by
  induction cs generalizing units with
  | nil => rfl
  | cons c tail ih =>
    rw [List.flatMap_cons, List.append_assoc, scan?_escapeChar, ih]
    simp

/-- A quoted text is one token, whatever follows it. -/
theorem scan?_quoted (s : String) (rest : List Char) :
    scan? .between ((quoted s).toList ++ rest) =
      (scan? .between rest).map (text (some s) :: ·) := by
  have content : ofUnits (s.toList.map Char.toNat).reverse = text (some s) := by
    simp [ofUnits, charsOfUnits?_toNat]
  have opened :
      (quoted s).toList ++ rest = '"' :: (s.toList.flatMap escapeChar ++ '"' :: rest) := by
    simp [quoted]
  rw [opened]
  simp [scan?, step, start, isSpace, scan?_flatMap_escapeChar, content]
  cases scan? .between rest <;> rfl

end Token

end SchemaDdl.Json
