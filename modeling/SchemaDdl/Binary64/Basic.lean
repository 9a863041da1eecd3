/-!
# Double-precision numbers

A double is its 64 bits. A finite one stands for `scaled / 2 ^ 1074`, up to its sign, so that every
comparison is one of natural numbers; `nearest?` rounds a quotient to the nearest double, a tie to
the even one. Nothing here rests on the machine's own arithmetic.
-/

namespace SchemaDdl

/-- A double-precision number in the binary interchange format. -/
structure Binary64 where
  bits : UInt64
deriving DecidableEq, Repr

namespace Binary64

def signBit : Nat := Nat.pow 2 63

/-- The leading bit of a significand, above the fifty-two bits of the fraction. -/
def leadingBit : Nat := Nat.pow 2 52

/-- One as a multiple of the smallest positive double, which is `1 / 2 ^ 1074`. -/
def scaledOne : Nat := Nat.pow 2 1074

def isNegative (x : Binary64) : Bool := signBit ≤ x.bits.toNat

/-- The eleven bits of the exponent. -/
def exponentField (x : Binary64) : Nat := x.bits.toNat / leadingBit % 2048

/-- The fifty-two bits of the fraction. -/
def fractionField (x : Binary64) : Nat := x.bits.toNat % leadingBit

/-- Whether the bits stand for a number: neither an infinity nor a NaN. -/
def isFinite (x : Binary64) : Bool := x.exponentField != 2047

/-- The significand as an integer, with the leading bit that normal numbers leave out. -/
def significand (x : Binary64) : Nat :=
  if x.exponentField = 0 then x.fractionField else leadingBit + x.fractionField

/-- The power of two, counted from the smallest one, that the significand is multiplied by. -/
def shift (x : Binary64) : Nat := x.exponentField - 1

/-- The magnitude as a multiple of the smallest positive double. -/
def scaled (x : Binary64) : Nat := x.significand * Nat.pow 2 x.shift

/-- The double with this sign and these lower sixty-three bits. -/
def ofMagnitude (negative : Bool) (magnitude : Nat) : Binary64 :=
  ⟨UInt64.ofNat ((if negative then signBit else 0) + magnitude)⟩

/-- The integer nearest to a quotient; a tie goes to the even one. -/
def divNearest (n d : Nat) : Nat :=
  let q := n / d
  let twice := 2 * (n % d)
  if d < twice ∨ (twice = d ∧ q % 2 = 1) then q + 1 else q

/-- The lower sixty-three bits of the double nearest to `n / d`, where a tie goes to the even
significand; none from the point on where infinity is nearest.

A double with the bits `s * leadingBit + r` is `leadingBit + r` units of `2 ^ (s - 1)`, so the
rounded count of units is added to the bits of the power of two, and a carry lands in the exponent.
-/
def nearest? (n d : Nat) : Option Nat :=
  let units := n * scaledOne / d
  let step := Nat.log2 units - 52
  let magnitude := step * leadingBit + divNearest (n * scaledOne) (d * Nat.pow 2 step)
  if magnitude < 2047 * leadingBit then some magnitude else none

end Binary64

end SchemaDdl
