import SecureStream.Crypto.Weierstrass
import SecureStream.Crypto.Sha2
import SecureStream.Der.Reader

/-! # Signatures over curves

A signature is a sequence of two numbers `r` and `s`. It is good if the point
`(z / s) · base + (r / s) · key` has `r` as its first coordinate, where `z` is what the digest comes
to in as many bits as the order has. -/

namespace SecureStream.Crypto.Ecdsa

open Weierstrass (Curve Point)
open Sha2 (Digest)

/-- Reads the two numbers. -/
def signature? (b : Bytes) : Option (Nat × Nat) := do
  let body ← Der.only? Der.sequence b
  let (r, rest) ← Der.expect? Der.integer body
  let s ← Der.only? Der.integer rest
  return (Bytes.toNat (← Der.natural? r), Bytes.toNat (← Der.natural? s))

/-- The number that a digest stands for. -/
def challenge (c : Curve) (d : Bytes) : Nat :=
  Bytes.toNat d / Nat.pow 2 (8 * d.length - (c.order.log2 + 1))

/-- Whether a pair of numbers signs a challenge. -/
def isGood (c : Curve) (key : Point) (z r s : Nat) : Bool :=
  let n := c.order
  if 0 < r ∧ r < n ∧ 0 < s ∧ s < n then
    let w := Modular.inverse n s
    let sum := Point.add c (Point.times c (z * w % n) c.base) (Point.times c (r * w % n) key)
    match sum.coordinates? c with
    | some (x, _) => x % n == r
    | none => false
  else false

/-- **Whether a signature is good** for a message and a key. -/
def verify (c : Curve) (d : Digest) (key message signature : Bytes) : Bool :=
  match c.anyPoint? key, signature? signature with
  | some key, some (r, s) => isGood c key (challenge c (d.of message)) r s
  | _, _ => false

end SecureStream.Crypto.Ecdsa
