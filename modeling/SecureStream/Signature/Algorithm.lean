import SecureStream.Crypto.Ecdsa
import SecureStream.Crypto.Rsa
import SecureStream.Crypto.Edwards
import SecureStream.Crypto.Lattice.MlDsa
import SecureStream.Signature.Scheme

/-! # Signature algorithms

An algorithm joins the identifier of a public key with that of a signature, and knows how to check
the signature. A table lists the algorithms that certificates may use and, for each scheme of the
handshake, those that stand for it. -/

namespace SecureStream.Signature

open Crypto
open Crypto.Sha2 (Digest)

/-- A curve by its name. -/
inductive NamedCurve
  | p256
  | p384
  | p521
deriving DecidableEq, Repr

/-- The curve of a name. -/
def NamedCurve.curve : NamedCurve → Crypto.Weierstrass.Curve
  | p256 => Crypto.Weierstrass.p256
  | p384 => Crypto.Weierstrass.p384
  | p521 => Crypto.Weierstrass.p521

/-- How a signature is checked. -/
inductive Check
  | ecdsa (curve : NamedCurve) (digest : Digest)
  | ed25519
  | rsaFixed (digest : Digest)
  | rsaSalted (digest : Digest)
  | mlDsa (level : Lattice.MlDsa.Level)
deriving DecidableEq, Repr

/-! ### Identifiers -/

/-- An object identifier as an element. -/
def identifier (octets : Bytes) : Bytes :=
  Der.objectIdentifier :: UInt8.ofNat octets.length :: octets

/-- The empty parameters. -/
def noParameters : Bytes := [0x05, 0x00]

/-- The identifier of a curve. -/
def NamedCurve.identifier : NamedCurve → Bytes
  | p256 => Signature.identifier [0x2a, 0x86, 0x48, 0xce, 0x3d, 0x03, 0x01, 0x07]
  | p384 => Signature.identifier [0x2b, 0x81, 0x04, 0x00, 0x22]
  | p521 => Signature.identifier [0x2b, 0x81, 0x04, 0x00, 0x23]

/-- A key on a curve. -/
def ecKey (c : NamedCurve) : Bytes :=
  identifier [0x2a, 0x86, 0x48, 0xce, 0x3d, 0x02, 0x01] ++ c.identifier

/-- An RSA key. -/
def rsaKey : Bytes :=
  identifier [0x2a, 0x86, 0x48, 0x86, 0xf7, 0x0d, 0x01, 0x01, 0x01] ++ noParameters

/-- A key on the twisted Edwards curve, and its signatures. -/
def ed25519Key : Bytes := identifier [0x2b, 0x65, 0x70]

/-- The last arc of a digest among the signatures over curves. -/
def ecdsaArc : Digest → UInt8
  | .sha256 => 2
  | .sha384 => 3
  | .sha512 => 4

/-- A signature over a curve. -/
def ecdsaSignature (d : Digest) : Bytes :=
  identifier [0x2a, 0x86, 0x48, 0xce, 0x3d, 0x04, 0x03, ecdsaArc d]

/-- The last arc of a digest among the fixed RSA signatures. -/
def rsaArc : Digest → UInt8
  | .sha256 => 11
  | .sha384 => 12
  | .sha512 => 13

/-- A fixed RSA signature, without parameters. -/
def rsaBare (d : Digest) : Bytes :=
  identifier [0x2a, 0x86, 0x48, 0x86, 0xf7, 0x0d, 0x01, 0x01, rsaArc d]

/-- The last arc of a digest. -/
def digestArc : Digest → UInt8
  | .sha256 => 1
  | .sha384 => 2
  | .sha512 => 3

/-- A digest, with empty parameters. -/
def digestIdentifier (d : Digest) : Bytes :=
  [0x30, 0x0d] ++ identifier [0x60, 0x86, 0x48, 0x01, 0x65, 0x03, 0x04, 0x02, digestArc d] ++
    noParameters

/-- A salted RSA signature: digest, mask and length of the salt. -/
def rsaSaltedSignature (d : Digest) : Bytes :=
  identifier [0x2a, 0x86, 0x48, 0x86, 0xf7, 0x0d, 0x01, 0x01, 0x0a] ++
    [0x30, 0x34, 0xa0, 0x0f] ++ digestIdentifier d ++
    [0xa1, 0x1c, 0x30, 0x1a] ++
    identifier [0x2a, 0x86, 0x48, 0x86, 0xf7, 0x0d, 0x01, 0x01, 0x08] ++ digestIdentifier d ++
    [0xa2, 0x03, 0x02, 0x01, UInt8.ofNat d.size]

/-- The last arc of a level of the lattice signatures. -/
def levelArc : Lattice.MlDsa.Level → UInt8
  | .level44 => 17
  | .level65 => 18
  | .level87 => 19

/-- A lattice key, and its signatures. -/
def mlDsaKey (l : Lattice.MlDsa.Level) : Bytes :=
  identifier [0x60, 0x86, 0x48, 0x01, 0x65, 0x03, 0x04, 0x03, levelArc l]

/-! ### Checking -/

/-- The key in a whole key element of an algorithm. -/
def elementKey? (algorithm b : Bytes) : Option Bytes := do
  let (body, _) ← Der.expectLong? Der.sequence b
  let (identifier, rest) ← Der.expectLong? Der.sequence body
  let key ← (Der.onlyLong? Der.bitString rest).bind Der.wholeBits?
  if identifier = algorithm then return key else none

/-- A key of a fixed size, which may also stand there as a whole key element. -/
def sizedKey? (algorithm : Bytes) (size : Nat) (b : Bytes) : Option Bytes :=
  if b.length = size then some b else elementKey? algorithm b

/-- An RSA key, which may also stand there as a whole key element. -/
def rsaKey? (b : Bytes) : Option Rsa.PublicKey :=
  Rsa.PublicKey.read? b <|> (elementKey? rsaKey b).bind Rsa.PublicKey.read?

/-- **Whether a signature is good** for a key and a message. -/
def Check.verify (check : Check) (key message signature : Bytes) : Bool :=
  match check with
  | ecdsa curve digest => Ecdsa.verify curve.curve digest key message signature
  | ed25519 =>
    (sizedKey? ed25519Key 32 key).any fun k => Edwards.verify k message signature
  | rsaFixed digest => (rsaKey? key).any fun k => Rsa.verifyFixed digest k message signature
  | rsaSalted digest => (rsaKey? key).any fun k => Rsa.verifySalted digest k message signature
  | mlDsa level =>
    (sizedKey? (mlDsaKey level) level.parameters.publicKeySize key).any fun k =>
      Lattice.MlDsa.verify level k message signature

/-! ### Algorithms -/

/-- **A signature algorithm**: the contents of the identifiers of its keys and of its signatures,
and its check. -/
structure Algorithm where
  publicKey : Bytes
  signature : Bytes
  check : Check
deriving DecidableEq, Repr

/-- Signatures over a curve with a digest. -/
def ecdsa (c : NamedCurve) (d : Digest) : Algorithm := ⟨ecKey c, ecdsaSignature d, .ecdsa c d⟩

/-- Signatures over the twisted Edwards curve. -/
def ed25519 : Algorithm := ⟨ed25519Key, ed25519Key, .ed25519⟩

/-- Salted RSA signatures. -/
def rsaSalted (d : Digest) : Algorithm := ⟨rsaKey, rsaSaltedSignature d, .rsaSalted d⟩

/-- Fixed RSA signatures. -/
def rsaFixed (d : Digest) : Algorithm := ⟨rsaKey, rsaBare d ++ noParameters, .rsaFixed d⟩

/-- Fixed RSA signatures whose identifier leaves out the empty parameters. -/
def rsaFixedBare (d : Digest) : Algorithm := ⟨rsaKey, rsaBare d, .rsaFixed d⟩

/-- Lattice signatures. -/
def mlDsa (l : Lattice.MlDsa.Level) : Algorithm := ⟨mlDsaKey l, mlDsaKey l, .mlDsa l⟩

/-! ### Tables -/

/-- **The algorithms that are accepted**, for certificates and by scheme. -/
structure Table where
  algorithms : List Algorithm
  schemes : List (Scheme × List Algorithm)
deriving DecidableEq, Repr

namespace Table

/-- The schemes of a table, in its order. -/
def supportedSchemes (t : Table) : List Scheme := t.schemes.map Prod.fst

/-- Every algorithm that the library knows. -/
def standard : Table where
  algorithms :=
    [ecdsa .p256 .sha256, ecdsa .p256 .sha384, ecdsa .p256 .sha512,
      ecdsa .p384 .sha256, ecdsa .p384 .sha384, ecdsa .p384 .sha512,
      ecdsa .p521 .sha256, ecdsa .p521 .sha384, ecdsa .p521 .sha512,
      ed25519,
      rsaSalted .sha256, rsaSalted .sha384, rsaSalted .sha512,
      rsaFixed .sha256, rsaFixed .sha384, rsaFixed .sha512,
      rsaFixedBare .sha256, rsaFixedBare .sha384, rsaFixedBare .sha512,
      mlDsa .level44, mlDsa .level65, mlDsa .level87]
  schemes :=
    [(.ecdsaP384Sha384, [ecdsa .p384 .sha384, ecdsa .p256 .sha384, ecdsa .p521 .sha384]),
      (.ecdsaP256Sha256, [ecdsa .p256 .sha256, ecdsa .p384 .sha256, ecdsa .p521 .sha256]),
      (.ecdsaP521Sha512, [ecdsa .p521 .sha512, ecdsa .p384 .sha512, ecdsa .p256 .sha512]),
      (.ed25519, [ed25519]),
      (.rsaPssSha512, [rsaSalted .sha512]),
      (.rsaPssSha384, [rsaSalted .sha384]),
      (.rsaPssSha256, [rsaSalted .sha256]),
      (.rsaPkcs1Sha512, [rsaFixed .sha512]),
      (.rsaPkcs1Sha384, [rsaFixed .sha384]),
      (.rsaPkcs1Sha256, [rsaFixed .sha256]),
      (.mlDsa44, [mlDsa .level44]),
      (.mlDsa65, [mlDsa .level65]),
      (.mlDsa87, [mlDsa .level87])]

end Table

end SecureStream.Signature
