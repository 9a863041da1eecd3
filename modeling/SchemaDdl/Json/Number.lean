import SchemaDdl.Binary64.Decimal
import SchemaDdl.Json.Basic
import SchemaDdl.Text.Digits

/-!
# Numbers in JSON

A `Numeral` is a number as it is written. It stands for an integer if it has neither point nor
exponent and fits sixty-four bits, and for a double otherwise. Doubles are written in the fewest
digits that read back, with a point or an exponent in any case.
-/

namespace SchemaDdl.Json

/-- A number as it is written. -/
structure Numeral where
  negative : Bool
  whole : List Char
  /-- The digits after the point, if there is one. -/
  fraction : Option (List Char)
  exponent : Option Int
deriving DecidableEq, Repr

namespace Numeral

/-- The digits at the front of a text, of which there must be one, and what follows them. -/
def digits? (cs : List Char) : Option (List Char × List Char) :=
  match cs.span Char.isDigit with
  | ([], _) => none
  | found => some found

/-- The digits before the point: a zero alone or digits that begin with another one. -/
def whole? (cs : List Char) : Option (List Char × List Char) := do
  let (digits, rest) ← digits? cs
  if digits.head? = some '0' ∧ digits ≠ ['0'] then none else some (digits, rest)

/-- A point and the digits behind it, if there is a point. -/
def fraction? : List Char → Option (Option (List Char) × List Char)
  | '.' :: rest => (digits? rest).map fun (digits, rest) => (some digits, rest)
  | cs => some (none, cs)

def exponent? : List Char → Option (Option Int × List Char)
  | c :: rest =>
    if c = 'e' ∨ c = 'E' then
      match rest with
      | '-' :: rest =>
        (digits? rest).map fun (ds, rest) => (some (-(Text.digitsValue ds : Int)), rest)
      | '+' :: rest => (digits? rest).map fun (ds, rest) => (some (Text.digitsValue ds), rest)
      | rest => (digits? rest).map fun (ds, rest) => (some (Text.digitsValue ds), rest)
    else some (none, c :: rest)
  | [] => some (none, [])

/-- The numeral that a word is. -/
def ofWord? (word : List Char) : Option Numeral := do
  let negative := word.head? == some '-'
  let (whole, rest) ← whole? (if negative then word.tail else word)
  let (fraction, rest) ← fraction? rest
  let (exponent, rest) ← exponent? rest
  if rest.isEmpty then some ⟨negative, whole, fraction, exponent⟩ else none

/-- Appends digits to a number as long as it stays below `2 ^ 64`; the digits that are left over
come second. -/
def absorb : Nat → List Char → Nat × List Char
  | n, [] => (n, [])
  | n, c :: rest =>
    let next := 10 * n + Text.digitValue c
    if next < UInt64.size then absorb next rest else (n, c :: rest)

/-- The numeral as a decimal number of about twenty digits: digits before the point that are too
many count as zeros, and those behind it not at all. -/
def decimal (x : Numeral) : Decimal :=
  let (whole, surplus) := absorb 0 x.whole
  let behind := x.fraction.getD []
  let (digits, dropped) := absorb whole behind
  ⟨x.negative, digits,
    x.exponent.getD 0 + surplus.length - (behind.length - dropped.length : Nat)⟩

/-- The value that a numeral stands for. -/
def value (x : Numeral) : Json :=
  let n := Text.digitsValue x.whole
  let isInteger := x.fraction.isNone && x.exponent.isNone
  if isInteger && !x.negative && n < UInt64.size then .integer n
  else if isInteger && x.negative && 0 < n && Int64.minValue.toInt ≤ -n then .integer (-n)
  else x.decimal.toBinary64?.elim .unreadable .real

end Numeral

/-- An exponent of ten with its sign. -/
def exponentText (n : Int) : List Char :=
  (if n < 0 then ['e', '-'] else ['e', '+']) ++ Nat.toDigits 10 n.natAbs

/-- Digits with their point placed, or in front of an exponent where the point is not among the
first sixteen digits or the five places before them. -/
def decimalText (x : Decimal) : String :=
  let digits := x.digitChars
  let point := digits.length + x.exponent
  if x.digits = 0 then x.signed ['0', '.', '0']
  else if 0 ≤ x.exponent ∧ point ≤ 16 then
    x.signed (digits ++ List.replicate x.exponent.toNat '0' ++ ['.', '0'])
  else if -5 < point ∧ point ≤ 16 then x.signed (Decimal.placePoint digits point)
  else
    let behind := digits.tail
    x.signed (digits.take 1 ++ (if behind.isEmpty then [] else '.' :: behind) ++
      exponentText (point - 1))

/-- A double in JSON. Infinities and NaNs are no numbers there. -/
def realText (x : Binary64) : String :=
  if x.isFinite then decimalText (x.shortest .toEven) else "null"

end SchemaDdl.Json
