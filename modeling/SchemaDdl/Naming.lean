import SchemaDdl.Digest.Sha256
import SchemaDdl.Text.Digits
import SchemaDdl.Text.Utf8

/-!
# Derived names

Names of constraints and indexes that a plan leaves out are derived from the table and its columns,
as in `UQ_orders_number`. A name that is longer than the dialect allows is cut and ends in sixteen
digits of a digest. The digest is taken over the parts and not over the joined name, so that a
different split of the same text has a different digest.
-/

namespace SchemaDdl

/-- What a derived name is for. -/
inductive ObjectKind where
  | defaultConstraint
  | primaryKey
  | foreignKey
  | unique
  | index
deriving DecidableEq, Repr

namespace ObjectKind

def all : List ObjectKind := [defaultConstraint, primaryKey, foreignKey, unique, index]

/-- The letters that a derived name begins with. -/
def tag : ObjectKind → String
  | defaultConstraint => "DF"
  | primaryKey => "PK"
  | foreignKey => "FK"
  | unique => "UQ"
  | index => "IX"

end ObjectKind

structure ObjectName where
  kind : ObjectKind
  table : String
  columns : List String
deriving DecidableEq, Repr

namespace ObjectName

/-- Number of digits of the digest in a shortened name. -/
def digestLength : Nat := 16

/-- The texts that the name is made of. -/
def parts (n : ObjectName) : List String := n.kind.tag :: n.table :: n.columns

/-- The parts joined by underscores. -/
def composed (n : ObjectName) : String := "_".intercalate n.parts

/-- The parts in UTF-8 with a zero byte between them. -/
def partBytes (n : ObjectName) : List UInt8 := [0].intercalate (n.parts.map Text.utf8)

/-- The first digits of the digest of the parts. -/
def digest (n : ObjectName) : List Char :=
  (Text.hexDigits 'a' (Digest.sha256 n.partBytes)).take digestLength

/-- The name in at most `max` bytes: the parts joined if they fit; else the longest prefix that
leaves room for an underscore and the digest, or only the digest where there is no room for more. -/
def text (n : ObjectName) (max : Nat) : String :=
  if n.composed.utf8ByteSize ≤ max then n.composed
  else if max ≤ digestLength + 1 then String.ofList (n.digest.take (min max digestLength))
  else
    String.ofList
      (Text.takeBytes (max - digestLength - 1) n.composed.toList ++ '_' :: n.digest)

/-! The same name by steps that can fail, each where a text would be cut inside a character or
outside the text, or a length would be negative. -/

def lengthWithout? (length part : Nat) : Option Nat :=
  if part ≤ length then some (length - part) else none

def digest? (n : ObjectName) : Option (List Char) :=
  Text.truncateBytes? digestLength (Text.hexDigits 'a' (Digest.sha256 n.partBytes))

def text? (n : ObjectName) (max : Nat) : Option String := do
  if n.composed.utf8ByteSize ≤ max then return n.composed
  let digest ← n.digest?
  if max ≤ digestLength + 1 then
    return String.ofList (← Text.exactBytes? (min max digestLength) digest)
  let withoutDigest ← lengthWithout? max digestLength
  let room ← lengthWithout? withoutDigest 1
  let kept ← Text.takeBytes? room n.composed.toList
  return String.ofList (kept ++ '_' :: digest)

end ObjectName

end SchemaDdl
