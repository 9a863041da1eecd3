/-!
# Digits

Numbers in decimal digits, of a fixed width or as many as it takes, and the reading of them.
-/

namespace SchemaDdl.Text

/-- The decimal digit of a number below ten. -/
def digitChar (n : Nat) : Char := Char.ofNat (48 + n % 10)

def digitValue (c : Char) : Nat := c.toNat - 48

/-- The last `width` decimal digits of a number, with leading zeros. -/
def fixedDigits : Nat → Nat → List Char
  | 0, _ => []
  | width + 1, n => fixedDigits width (n / 10) ++ [digitChar n]

@[simp] theorem length_fixedDigits (width n : Nat) : (fixedDigits width n).length = width := by
  induction width generalizing n with
  | zero => rfl
  | succ width ih => simp [fixedDigits, ih]

def digitsValue (cs : List Char) : Nat := cs.foldl (fun n c => 10 * n + digitValue c) 0

/-- A number in at least `width` decimal digits. -/
def paddedNumber (width n : Nat) : String :=
  String.ofList (if n < Nat.pow 10 width then fixedDigits width n else Nat.toDigits 10 n)

/-- The text followed by spaces up to `width` characters. -/
def padRight (width : Nat) (s : String) : String :=
  s ++ String.ofList (List.replicate (width - s.length) ' ')

/-- The text behind spaces up to `width` characters. -/
def padLeft (width : Nat) (s : String) : String :=
  String.ofList (List.replicate (width - s.length) ' ') ++ s

/-- The hexadecimal digit of a number below sixteen, where `ten` stands for ten. -/
def hexDigit (ten : Char) (n : Nat) : Char :=
  if n < 10 then digitChar n else Char.ofNat (ten.toNat + (n - 10))

/-- Hexadecimal digits of bytes, two for each byte. -/
def hexDigits (ten : Char) (bytes : List UInt8) : List Char :=
  bytes.flatMap fun b => [hexDigit ten (b.toNat / 16), hexDigit ten (b.toNat % 16)]

def hexUpper (bytes : List UInt8) : String := String.ofList (hexDigits 'A' bytes)

theorem length_hexDigits (ten : Char) (bytes : List UInt8) :
    (hexDigits ten bytes).length = 2 * bytes.length := by
  induction bytes with
  | nil => rfl
  | cons b rest ih =>
    simp only [hexDigits, List.flatMap_cons, List.length_append, List.length_cons,
      List.length_nil] at ih ⊢
    omega

end SchemaDdl.Text
