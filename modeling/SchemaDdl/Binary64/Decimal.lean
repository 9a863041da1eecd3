import SchemaDdl.Binary64.Basic

/-!
# Doubles in decimal

`Decimal.toBinary64?` gives the double for a decimal number as read, and `Binary64.shortest` the
fewest decimal digits that read back as a given double. `Decimal.positional` writes a decimal number
without an exponent.
-/

namespace SchemaDdl

/-- The number `digits * 10 ^ exponent`, or its negative. -/
structure Decimal where
  negative : Bool
  digits : Nat
  exponent : Int
deriving DecidableEq, Repr

/-- Where the shortest digits go when the double lies halfway between two candidates. -/
inductive Halfway where
  | up
  | toEven
deriving DecidableEq, Repr

namespace Binary64

/-- The double nearest to `10 ^ k`, as a multiple of the smallest positive double. -/
def powerOfTen (k : Nat) : Nat :=
  ((nearest? (Nat.pow 10 k) 1).map (ofMagnitude false)).elim 0 scaled

/-- The magnitude times `10 ^ k`, rounded once. -/
def mulTen? (magnitude k : Nat) : Option Nat :=
  nearest? ((ofMagnitude false magnitude).scaled * powerOfTen k) (scaledOne * scaledOne)

/-- The magnitude divided by `10 ^ k`, rounded once. -/
def divTen? (magnitude k : Nat) : Option Nat :=
  nearest? (ofMagnitude false magnitude).scaled (powerOfTen k)

/-- The integer next to `mid / unit`, below or above, that lies in the interval from `low / unit` to
`high / unit`, the nearer one if both do. The interval is closed or open at both ends. -/
def neighbour? (halfway : Halfway) (low mid high : Nat) (closed : Bool) (unit : Nat) : Option Nat :=
  let inside (c : Nat) : Bool :=
    if closed then low ≤ c * unit && c * unit ≤ high else low < c * unit && c * unit < high
  let below := mid / unit
  let above := below + 1
  match inside below, inside above with
  | false, false => none
  | true, false => some below
  | false, true => some above
  | true, true =>
    let toBelow := mid - below * unit
    let toAbove := above * unit - mid
    if toBelow < toAbove then some below
    else if toAbove < toBelow then some above
    else match halfway with
      | .up => some above
      | .toEven => some (if below % 2 = 0 then below else above)

/-- Number of decimal digits before the point, for a quotient of at least one; for a smaller one the
number of zeros behind the point, negated. -/
def pointPosition (n d : Nat) : Int :=
  if d ≤ n then (Nat.toDigits 10 (n / d)).length
  else 1 - (Nat.toDigits 10 ((d - 1) / n)).length

/-- Takes the zeros at the end of a number into the exponent. -/
def dropZeros : Nat → Nat → Int → Nat × Int
  | 0, digits, exponent => (digits, exponent)
  | fuel + 1, digits, exponent =>
    if digits % 10 = 0 ∧ digits ≠ 0 then dropZeros fuel (digits / 10) (exponent + 1)
    else (digits, exponent)

/-- The fewest decimal digits that read back as the same finite double, and of those the nearest to
it. On the grid of one digit, then two, and so on, the double's two neighbours are tested against
the interval of reals that round to it; seventeen digits always suffice. -/
def shortest (halfway : Halfway) (x : Binary64) : Decimal :=
  if x.scaled = 0 then ⟨x.isNegative, 0, 0⟩
  else
    let quarter := Nat.pow 2 x.shift
    let mid := 4 * x.scaled
    let low := mid - (if x.fractionField = 0 ∧ x.exponentField ≠ 0 then quarter else 2 * quarter)
    let high := mid + 2 * quarter
    let den := 4 * scaledOne
    let point := pointPosition mid den
    let closed := x.significand % 2 == 0
    let onGrid (count : Nat) : Option Decimal :=
      let exponent := point - count
      let (scale, unit) :=
        if exponent < 0 then (Nat.pow 10 (-exponent).toNat, den)
        else (1, den * Nat.pow 10 exponent.toNat)
      (neighbour? halfway (low * scale) (mid * scale) (high * scale) closed unit).map fun digits =>
        let (digits, exponent) := dropZeros count digits exponent
        ⟨x.isNegative, digits, exponent⟩
    ((List.range 17).findSome? fun i => onGrid (i + 1)).getD ⟨x.isNegative, 0, 0⟩

end Binary64

namespace Decimal

/-- The double for a decimal number: the digits as a double, then times or by a power of ten as a
double, each step rounded to nearest. Powers beyond `10 ^ 308` are no doubles: above, only zero
stays finite; below, the power is taken in two steps, after which nothing is left of any number of
twenty digits. None where the result is infinite. -/
def toBinary64? (x : Decimal) : Option Binary64 := do
  let magnitude ← Binary64.nearest? x.digits 1
  let scaled ←
    if 0 ≤ x.exponent then
      if magnitude = 0 then some 0
      else if x.exponent ≤ 308 then Binary64.mulTen? magnitude x.exponent.toNat
      else none
    else
      let k := (-x.exponent).toNat
      if k ≤ 308 then Binary64.divTen? magnitude k
      else if k ≤ 616 then (Binary64.divTen? magnitude 308).bind (Binary64.divTen? · (k - 308))
      else some 0
  return Binary64.ofMagnitude x.negative scaled

/-- The digits of a decimal number, without sign and exponent. -/
def digitChars (x : Decimal) : List Char := Nat.toDigits 10 x.digits

/-- The sign of a decimal number in front of a text. -/
def signed (x : Decimal) (cs : List Char) : String :=
  String.ofList (if x.negative then '-' :: cs else cs)

/-- Digits with a point after the first `point` of them, at least one digit before it. -/
def placePoint (digits : List Char) (point : Int) : List Char :=
  if 0 < point then digits.take point.toNat ++ '.' :: digits.drop point.toNat
  else '0' :: '.' :: (List.replicate (-point).toNat '0' ++ digits)

/-- All digits in their places, without an exponent and without a point in an integer. -/
def positional (x : Decimal) : String :=
  let digits := x.digitChars
  if 0 ≤ x.exponent then x.signed (digits ++ List.replicate x.exponent.toNat '0')
  else x.signed (placePoint digits (digits.length + x.exponent))

end Decimal

end SchemaDdl
