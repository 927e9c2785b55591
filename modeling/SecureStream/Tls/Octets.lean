import SecureStream.Bytes
import SecureStream.Tls.Error

/-! # Reading and writing the fields of messages

Numbers of a fixed width, octets behind their length, and lists of those. A reader takes from the
front and names the field that it misses. -/

namespace SecureStream.Tls

/-- A reader of fields. -/
abbrev FieldReader := StateT Bytes (Except Corruption)

namespace FieldReader

/-- A given number of octets. -/
def octets (n : Nat) (field : String) : FieldReader Bytes := fun b =>
  if n ≤ b.length then .ok (b.take n, b.drop n) else .error (.missingData field)

/-- A number of so many octets. -/
def number (width : Nat) (field : String) : FieldReader Nat := Bytes.toNat <$> octets width field

/-- The name of a number that is a length. -/
def lengthField (width : Nat) : String := "u" ++ toString (8 * width)

/-- Octets behind their length. -/
def sized (width : Nat) : FieldReader Bytes := do
  let n ← number width (lengthField width)
  fun b => if n ≤ b.length then .ok (b.take n, b.drop n) else .error .messageTooShort

/-- Octets behind their length, one at least. -/
def sizedSome (width : Nat) : FieldReader Bytes := do
  let n ← number width (lengthField width)
  if n = 0 then throw .illegalEmptyValue
  fun b => if n ≤ b.length then .ok (b.take n, b.drop n) else .error .messageTooShort

/-- What a reader makes of octets. -/
def within {α : Type} (r : FieldReader α) (b : Bytes) : FieldReader α := fun rest =>
  (StateT.run r b).map fun x => (x.1, rest)

/-- The octets that are left. -/
def rest : FieldReader Bytes := fun b => .ok (b, [])

/-- Nothing may be left of a value of this type. -/
def done (type : String) : FieldReader Unit := fun b =>
  if b.isEmpty then .ok ((), []) else .error (.trailingData type)

/-- Reads from octets, with what is left. -/
def run {α : Type} (r : FieldReader α) (b : Bytes) : Except Corruption α :=
  (StateT.run r b).map Prod.fst

/-- Reads values one after another up to the end. Each takes one octet at least, so that there are
no more of them than octets. -/
def all {α : Type} (r : FieldReader α) : (limit : Nat) → FieldReader (List α)
  | 0 => pure []
  | limit + 1 => fun b =>
    if b.isEmpty then .ok ([], [])
    else ((do
      let a ← r
      let tail ← all r limit
      return a :: tail) : FieldReader (List α)) b

/-- The values behind the length of all of them. -/
def list {α : Type} (width : Nat) (r : FieldReader α) : FieldReader (List α) := do
  let b ← sized width
  within (all r b.length) b

/-- The values behind the length of all of them, which is not zero. -/
def listSome {α : Type} (width : Nat) (empty : Corruption) (r : FieldReader α) :
    FieldReader (List α) := do
  let n ← number width (lengthField width)
  if n = 0 then throw empty
  fun b =>
    if n ≤ b.length then within (all r n) (b.take n) (b.drop n) else .error .messageTooShort

end FieldReader

/-- Octets behind their length. -/
def sizedField (width : Nat) (b : Bytes) : Bytes := Bytes.ofNat width b.length ++ b

end SecureStream.Tls
