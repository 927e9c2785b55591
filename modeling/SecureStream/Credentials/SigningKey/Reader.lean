import SecureStream.Credentials.PrivateKey
import SecureStream.Credentials.SigningKey

/-! # Opening private keys

The numbers of a key are read from its octets and checked against each other. What follows the outer
sequence of a key is ignored; inside of it everything has to be as the format has it.

* `rsaOf?`, `ecOf?`: the contents of a key of one kind.
* `unwrap?`: a key with the identifier of its algorithm around it.
* `ofPrivateKey?`: a key in any format. -/

namespace SecureStream.SigningKey

open Crypto
open Crypto.Lattice.MlDsa (Level)
open Signature (NamedCurve)

/-- The number at the front. -/
def number? (b : Bytes) : Option (Nat × Bytes) := do
  let (content, rest) ← Der.expectLong? Der.integer b
  return (Bytes.toNat (← Der.natural? content), rest)

/-! ### RSA -/

/-- The numbers of an RSA key. -/
structure RsaNumbers where
  n : Nat
  e : Nat
  d : Nat
  p : Nat
  q : Nat
  dp : Nat
  dq : Nat
  /-- The inverse of `q` modulo `p`. -/
  inverse : Nat

/-- Whether the numbers fit together. -/
def RsaNumbers.fit (x : RsaNumbers) : Bool :=
  x.n == x.p * x.q && 1 < x.p && 1 < x.q && x.p < x.n && x.q < x.n && x.d < x.n &&
    x.d * x.e % (x.p - 1) == 1 && x.d * x.e % (x.q - 1) == 1 &&
    x.dp == x.d % (x.p - 1) && x.dq == x.d % (x.q - 1) &&
    x.inverse < x.p && x.q * x.inverse % x.p == 1

/-- An RSA key: a version, modulus, exponents and primes. -/
def rsaOf? (body : Bytes) : Option SigningKey := do
  let (version, rest) ← number? body
  let (n, rest) ← number? rest
  let (e, rest) ← number? rest
  let (d, rest) ← number? rest
  let (p, rest) ← number? rest
  let (q, rest) ← number? rest
  let (dp, rest) ← number? rest
  let (dq, rest) ← number? rest
  let (inverse, rest) ← number? rest
  let key : Rsa.PublicKey := ⟨n, e⟩
  let numbers : RsaNumbers := ⟨n, e, d, p, q, dp, dq, inverse⟩
  if version = 0 ∧ rest.isEmpty ∧ key.isAccepted ∧ numbers.fit then return rsa key else none

/-! ### Curves -/

/-- The identifier of fields of prime order. -/
def primeField : Bytes := [0x2a, 0x86, 0x48, 0xce, 0x3d, 0x01, 0x01]

/-- A curve written out in full. -/
structure CurveParameters where
  field : Nat
  a : Nat
  b : Nat
  base : Bytes
  order : Nat

/-- Whether the parameters are those of a curve. The base point is in the form with both
coordinates. -/
def CurveParameters.isOf (x : CurveParameters) (c : Weierstrass.Curve) : Bool :=
  match x.base with
  | 0x04 :: rest =>
    let size := rest.length / 2
    x.field == c.field && x.a == c.a && x.b == c.b && x.order == c.order &&
      rest.length % 2 == 0 && Bytes.toNat (rest.take size) == c.baseX &&
      Bytes.toNat (rest.drop size) == c.baseY
  | _ => false

/-- Reads parameters written out in full: the field, the coefficients with perhaps a seed, the base
point, its order and perhaps the cofactor, which is one. -/
def parameters? (body : Bytes) : Option CurveParameters := do
  let (version, rest) ← number? body
  let (field, rest) ← Der.expectLong? Der.sequence rest
  let (kind, field) ← Der.expectLong? Der.objectIdentifier field
  let (prime, fieldEnd) ← number? field
  let (curve, rest) ← Der.expectLong? Der.sequence rest
  let (a, curve) ← Der.expectLong? Der.octetString curve
  let (b, curve) ← Der.expectLong? Der.octetString curve
  let (_, curveEnd) ← Der.optionalLong? Der.bitString curve
  let (base, rest) ← Der.expectLong? Der.octetString rest
  let (order, rest) ← number? rest
  let (cofactor, rest) ← Der.optionalLong? Der.integer rest
  if version = 1 ∧ kind = primeField ∧ fieldEnd.isEmpty ∧ curveEnd.isEmpty ∧ rest.isEmpty ∧
      cofactor.all (· == [1]) then
    return ⟨prime, Bytes.toNat a, Bytes.toNat b, base, order⟩
  else none

/-- Whether octets stand for a curve: its identifier, or its parameters in full. -/
def isCurve (curve : NamedCurve) (b : Bytes) : Bool :=
  b == curve.identifier ||
    ((Der.onlyLong? Der.sequence b).bind parameters?).any fun x => x.isOf curve.curve

/-- Whether the element that shows a public key shows this one. -/
def showsPoint (curve : NamedCurve) (secret : Nat) (b : Bytes) : Bool :=
  match ((Der.onlyLong? Der.bitString b).bind Der.wholeBits?).bind curve.curve.anyPoint? with
  | none => false
  | some point => curve.curve.encode? point == curve.curve.publicKey? secret

/-- A key on a curve: a version, the secret number, perhaps the curve, perhaps the public key. -/
def ecOf? (curve : NamedCurve) (body : Bytes) : Option SigningKey := do
  let (version, rest) ← number? body
  let (secret, rest) ← Der.expectLong? Der.octetString rest
  let (parameters, rest) ← Der.optionalLong? (Der.context 0) rest
  let (shown, rest) ← Der.optionalLong? (Der.context 1) rest
  let secret := Bytes.toNat secret
  if version = 1 ∧ rest.isEmpty ∧ 0 < secret ∧ secret < curve.curve.order ∧
      parameters.all (isCurve curve) ∧ shown.all (showsPoint curve secret) then
    return ecdsa curve secret
  else none

/-! ### Keys with the identifier of their algorithm -/

/-- What a wrapped key holds: the identifier of its algorithm, the key, and the public key where it
is shown. -/
structure Wrapped where
  algorithm : Bytes
  key : Bytes
  shown : Option Bytes

/-- Opens a wrapped key. The first version shows no public key, and what follows is ignored. -/
def unwrap? (b : Bytes) : Option Wrapped := do
  let (body, _) ← Der.expectLong? Der.sequence b
  let (version, rest) ← number? body
  let (algorithm, rest) ← Der.expectLong? Der.sequence rest
  let (key, rest) ← Der.expectLong? Der.octetString rest
  let (_, rest) ← Der.optionalLong? (Der.context 0) rest
  let (shown, _) ←
    if version = 1 then Der.optionalLong? (Der.contextPrimitive 1) rest else some (none, rest)
  if version ≤ 1 then return ⟨algorithm, key, shown⟩ else none

/-- The identifier of keys on curves, in front of that of the curve. -/
def ecIdentifier : Bytes := Signature.identifier [0x2a, 0x86, 0x48, 0xce, 0x3d, 0x02, 0x01]

/-- A wrapped key on a curve. -/
def wrappedEc? (curve : NamedCurve) (w : Wrapped) : Option SigningKey :=
  if ecIdentifier.isPrefixOf w.algorithm ∧ isCurve curve (w.algorithm.drop ecIdentifier.length) ∧
      w.shown.isNone then
    (Der.onlyLong? Der.sequence w.key).bind (ecOf? curve)
  else none

/-- A wrapped RSA key. -/
def wrappedRsa? (w : Wrapped) : Option SigningKey :=
  if w.algorithm = Signature.rsaKey ∧ w.shown.isNone then
    (Der.onlyLong? Der.sequence w.key).bind rsaOf?
  else none

/-- A wrapped key on the twisted Edwards curve: a seed. -/
def wrappedEd25519? (w : Wrapped) : Option SigningKey := do
  let seed ← Der.onlyLong? Der.octetString w.key
  if w.algorithm = Signature.ed25519Key ∧ seed.length = 32 ∧
      w.shown.all (· == 0 :: Edwards.publicKey seed) then
    return ed25519 seed
  else none

/-- The octets of a seed for lattice keys. -/
def seedSize : Nat := 32

/-- The keys of a seed. -/
def seedPair? (level : Level) (seed : Bytes) : Option Lattice.MlDsa.KeyPair :=
  if seed.length = seedSize then some (.ofSeed level.parameters seed) else none

/-- The public half of a lattice key: of a seed, of an expanded key, or of both, which have to
fit. -/
def latticePublicKey? (level : Level) (b : Bytes) : Option Bytes :=
  if b.head? = some (Der.contextPrimitive 0) then do
    let seed ← Der.onlyLong? (Der.contextPrimitive 0) b
    return (← seedPair? level seed).publicKey
  else if b.head? = some Der.octetString then do
    Lattice.MlDsa.publicKeyOf? level.parameters (← Der.onlyLong? Der.octetString b)
  else do
    let body ← Der.onlyLong? Der.sequence b
    let (seed, rest) ← Der.expectLong? Der.octetString body
    let expanded ← Der.onlyLong? Der.octetString rest
    let pair ← seedPair? level seed
    if pair.privateKey = expanded then return pair.publicKey else none

/-- A wrapped lattice key. -/
def wrappedLattice? (level : Level) (w : Wrapped) : Option SigningKey :=
  if w.algorithm = Signature.mlDsaKey level then
    (latticePublicKey? level w.key).map (mlDsa level)
  else none

/-! ### All formats -/

/-- The curves, in the order in which they are tried. -/
def curves : List NamedCurve := [.p256, .p384, .p521]

/-- The levels of lattice keys. -/
def levels : List Level := [.level44, .level65, .level87]

/-- A key on a curve, wrapped or by itself. -/
def readEc? (curve : NamedCurve) (b : Bytes) : Option SigningKey :=
  (unwrap? b).bind (wrappedEc? curve) <|>
    (Der.expectLong? Der.sequence b).bind fun (body, _) => ecOf? curve body

/-- **Opens a private key.** -/
def ofPrivateKey? (k : PrivateKey) : Option SigningKey :=
  match k.format with
  | .pkcs1 => (Der.expectLong? Der.sequence k.content).bind fun (body, _) => rsaOf? body
  | .sec1 => curves.findSome? fun c => readEc? c k.content
  | .pkcs8 =>
    (unwrap? k.content).bind fun w =>
      wrappedRsa? w <|> curves.findSome? (wrappedEc? · w) <|> wrappedEd25519? w <|>
        levels.findSome? (wrappedLattice? · w)

end SecureStream.SigningKey
