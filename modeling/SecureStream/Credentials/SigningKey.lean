import SecureStream.Signature.Algorithm
import SecureStream.X509.PublicKey

/-! # Keys that sign

A private key in its numbers, from which the public key follows. A client's key has to belong to the
first of the client's certificates.

* `publicKeyInfo`: the public key as it stands in a certificate.
* `schemes`: the ways in which a key can sign. -/

namespace SecureStream

open Crypto
open Crypto.Lattice.MlDsa (Level)
open Signature (NamedCurve Scheme)

/-- **A key that signs.** -/
inductive SigningKey
  | rsa (key : Rsa.PublicKey)
  | ecdsa (curve : NamedCurve) (secret : Nat)
  | ed25519 (seed : Bytes)
  /-- A lattice key, of which the public half is kept. -/
  | mlDsa (level : Level) (publicKey : Bytes)
deriving DecidableEq, Repr

namespace SigningKey

/-- The public key with the identifier of its algorithm. -/
def publicKey : SigningKey → X509.PublicKey
  | rsa key =>
    ⟨Signature.rsaKey,
      Der.element Der.sequence (Der.natural key.modulus ++ Der.natural key.exponent)⟩
  | ecdsa curve secret => ⟨Signature.ecKey curve, (curve.curve.publicKey? secret).getD []⟩
  | ed25519 seed => ⟨Signature.ed25519Key, Edwards.publicKey seed⟩
  | mlDsa level publicKey => ⟨Signature.mlDsaKey level, publicKey⟩

/-- **The public key**, as the contents of a key element. -/
def publicKeyInfo (k : SigningKey) : Bytes := k.publicKey.encode

/-- The schemes that a key can sign with, best first. -/
def schemes : SigningKey → List Scheme
  | rsa _ =>
    [.rsaPssSha512, .rsaPssSha384, .rsaPssSha256, .rsaPkcs1Sha512, .rsaPkcs1Sha384,
      .rsaPkcs1Sha256]
  | ecdsa .p256 _ => [.ecdsaP256Sha256]
  | ecdsa .p384 _ => [.ecdsaP384Sha384]
  | ecdsa .p521 _ => [.ecdsaP521Sha512]
  | ed25519 _ => [.ed25519]
  | mlDsa .level44 _ => [.mlDsa44]
  | mlDsa .level65 _ => [.mlDsa65]
  | mlDsa .level87 _ => [.mlDsa87]

/-- The octets of a signature, as a rule. -/
def signatureSize : SigningKey → Nat
  | rsa key => key.modulus.log2 / 8 + 1
  | ecdsa curve _ => 2 * curve.curve.size + 7
  | ed25519 _ => 64
  | mlDsa level _ => level.parameters.signatureSize

end SigningKey

end SecureStream
