import SecureStream.Pem.Document

/-! # Private keys

A key is kept as its octets together with the format they are in. The format of a binary key is
told from how it starts; in a document the label tells it. -/

namespace SecureStream

/-- The format of a private key. -/
inductive KeyFormat
  | pkcs1
  | sec1
  | pkcs8
deriving DecidableEq, Repr

/-- The label of a format. -/
def KeyFormat.label : KeyFormat → String
  | pkcs1 => "pkcs1"
  | sec1 => "sec1"
  | pkcs8 => "pkcs8"

/-- **A private key.** -/
structure PrivateKey where
  format : KeyFormat
  content : Bytes
deriving DecidableEq, Repr

namespace PrivateKey

/-- What follows the header of the outer sequence. The declared length is not looked at. -/
def body? : Bytes → Option Bytes
  | 0x30 :: len :: rest =>
    if len.toNat < 128 then some rest
    else if len.toNat - 128 ≤ rest.length then some (rest.drop (len.toNat - 128)) else none
  | _ => none

/-- The format that the first octets of the body show: a version and then a sequence, or else the
version alone. -/
def formatOf? : (body : Bytes) → Option KeyFormat
  | 0x02 :: 0x01 :: version :: rest =>
    match rest with
    | 0x30 :: _ => some .pkcs8
    | _ => if version = 0 then some .pkcs1 else if version = 1 then some .sec1 else none
  | _ => none

/-- **Takes octets for a binary key.** -/
def ofDer? (b : Bytes) : Option PrivateKey :=
  (body? b).bind fun body => (formatOf? body).map fun format => ⟨format, b⟩

/-- The key that a section of a document holds. -/
def ofSection? (s : Pem.Section) : Option PrivateKey :=
  match s.label with
  | .pkcs8Key => some ⟨.pkcs8, s.content⟩
  | .pkcs1Key => some ⟨.pkcs1, s.content⟩
  | .sec1Key => some ⟨.sec1, s.content⟩
  | _ => none

end PrivateKey

end SecureStream
