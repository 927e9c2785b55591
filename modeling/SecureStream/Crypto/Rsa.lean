import SecureStream.Crypto.Sha2
import SecureStream.Der.Reader

/-! # RSA signatures

A signature is raised to the public exponent and the result compared with the form that the scheme
prescribes: a fixed one (`verifyFixed`), or one with a salt as long as the digest
(`verifySalted`). -/

namespace SecureStream.Crypto.Rsa

open Sha2 (Digest)

/-- A public key. -/
structure PublicKey where
  modulus : Nat
  exponent : Nat
deriving DecidableEq, Repr

namespace PublicKey

/-- The bits of the modulus. -/
def bits (k : PublicKey) : Nat := k.modulus.log2 + 1

/-- The octets of a signature. -/
def size (k : PublicKey) : Nat := (k.bits + 7) / 8

/-- Keys of 2048 to 8192 bits with an odd exponent of at most 33 bits are accepted. -/
def isAccepted (k : PublicKey) : Bool :=
  2048 ≤ k.bits && k.bits ≤ 8192 && k.exponent % 2 == 1 && 3 ≤ k.exponent &&
    k.exponent < Nat.pow 2 33 && k.modulus % 2 == 1

/-- Reads a key: a sequence of modulus and exponent. -/
def read? (b : Bytes) : Option PublicKey := do
  let body ← Der.only? Der.sequence b
  let (modulus, rest) ← Der.expect? Der.integer body
  let exponent ← Der.only? Der.integer rest
  let modulus ← Der.natural? modulus
  let exponent ← Der.natural? exponent
  let key : PublicKey := ⟨Bytes.toNat modulus, Bytes.toNat exponent⟩
  if key.isAccepted then return key else none

/-- The form that a signature opens to, in as many octets as the key has. -/
def openSignature? (k : PublicKey) (signature : Bytes) : Option Bytes :=
  let s := Bytes.toNat signature
  if signature.length = k.size ∧ s < k.modulus then
    some (Bytes.ofNat k.size (Modular.power k.modulus s k.exponent))
  else none

end PublicKey

/-! ### The fixed form -/

/-- The identifier of a digest in front of its value. -/
def digestHeader : Digest → Bytes
  | .sha256 => [0x30, 0x31, 0x30, 0x0d, 0x06, 0x09, 0x60, 0x86, 0x48, 0x01, 0x65, 0x03, 0x04, 0x02,
      0x01, 0x05, 0x00, 0x04, 0x20]
  | .sha384 => [0x30, 0x41, 0x30, 0x0d, 0x06, 0x09, 0x60, 0x86, 0x48, 0x01, 0x65, 0x03, 0x04, 0x02,
      0x02, 0x05, 0x00, 0x04, 0x30]
  | .sha512 => [0x30, 0x51, 0x30, 0x0d, 0x06, 0x09, 0x60, 0x86, 0x48, 0x01, 0x65, 0x03, 0x04, 0x02,
      0x03, 0x05, 0x00, 0x04, 0x40]

/-- The fixed form of a message's digest in so many octets. -/
def fixedForm (d : Digest) (size : Nat) (message : Bytes) : Bytes :=
  let tail := digestHeader d ++ d.of message
  [0x00, 0x01] ++ List.replicate (size - 3 - tail.length) 0xff ++ [0x00] ++ tail

/-- **Whether a signature opens to the fixed form.** -/
def verifyFixed (d : Digest) (k : PublicKey) (message signature : Bytes) : Bool :=
  k.openSignature? signature == some (fixedForm d k.size message)

/-! ### The salted form -/

/-- A mask of so many octets from a seed. -/
def mask (d : Digest) (seed : Bytes) (size : Nat) : Bytes :=
  ((List.range (size / d.size + 1)).flatMap fun i => d.of (seed ++ Bytes.ofNat 4 i)).take size

/-- **Whether a signature opens to a salted form.** -/
def verifySalted (d : Digest) (k : PublicKey) (message signature : Bytes) : Bool :=
  match k.openSignature? signature with
  | none => false
  | some whole =>
    let formBits := k.bits - 1
    let formSize := (formBits + 7) / 8
    let form := whole.drop (k.size - formSize)
    let keySize := formSize - d.size - 1
    let covered := form.take keySize
    let value := (form.drop keySize).take d.size
    let block := List.zipWith (· ^^^ ·) covered (mask d value keySize)
    let free := 8 * formSize - formBits
    let block := match block with
      | b :: rest => UInt8.ofNat (b.toNat % Nat.pow 2 (8 - free)) :: rest
      | [] => []
    let padding := keySize - d.size - 1
    let salt := block.drop (padding + 1)
    (whole.take (k.size - formSize)).all (· == 0) && 2 * d.size + 2 ≤ formSize &&
      form.getLast? == some (0xbc : UInt8) && (covered.headD 0).toNat < Nat.pow 2 (8 - free) &&
      (block.take padding).all (· == 0) && (block.drop padding).head? == some (1 : UInt8) &&
      value == d.of (List.replicate 8 0 ++ d.of message ++ salt)

end SecureStream.Crypto.Rsa
