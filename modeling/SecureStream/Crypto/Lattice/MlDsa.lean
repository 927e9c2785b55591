import SecureStream.Crypto.Keccak
import SecureStream.Crypto.Lattice.Polynomial

/-! # Lattice signatures

The scheme ML-DSA in its three levels. A public key stands for a matrix of polynomials, given by a
seed, and for the high bits of a vector; a signature is a short vector that answers a challenge. The
verifier recomputes the challenge from the key, the message and the answer.

* `KeyPair.ofSeed`: the two keys of a seed.
* `publicKeyOf?`: the public key of an expanded private one.
* `verify`: whether a signature is good. -/

namespace SecureStream.Crypto.Lattice.MlDsa

open Keccak (shake128 shake256)

/-! ### Levels -/

/-- A level. -/
inductive Level
  | level44
  | level65
  | level87
deriving DecidableEq, Repr

/-- What tells the levels apart. -/
structure Parameters where
  /-- The rows of the matrix. -/
  rows : Nat
  columns : Nat
  /-- The bound of the coefficients of a secret. -/
  secretBound : Nat
  /-- The coefficients of a challenge that are not zero. -/
  weight : Nat
  /-- The bits of a coefficient of an answer. -/
  answerBits : Nat
  /-- Into how many ranges high bits cut the field. -/
  ranges : Nat
  /-- The hints at most. -/
  hints : Nat
  /-- The octets of a challenge. -/
  challengeSize : Nat

/-- The parameters of a level. -/
def Level.parameters : Level → Parameters
  | level44 => ⟨4, 4, 2, 39, 18, 44, 80, 32⟩
  | level65 => ⟨6, 5, 4, 49, 20, 16, 55, 48⟩
  | level87 => ⟨8, 7, 2, 60, 20, 16, 75, 64⟩

namespace Parameters

/-- The bits of a coefficient of a secret. -/
def secretBits (p : Parameters) : Nat := if p.secretBound = 2 then 3 else 4

/-- The bound of the coefficients of an answer, which none reaches from below. -/
def answerBound (p : Parameters) : Nat := Nat.pow 2 (p.answerBits - 1)

/-- Half of the width of a range. -/
def halfRange (p : Parameters) : Nat := (modulus - 1) / (2 * p.ranges)

/-- The bits of the number of a range. -/
def rangeBits (p : Parameters) : Nat := (p.ranges - 1).log2 + 1

/-- The octets of a public key. -/
def publicKeySize (p : Parameters) : Nat := 32 + 320 * p.rows

/-- The octets of a signature. -/
def signatureSize (p : Parameters) : Nat :=
  p.challengeSize + 32 * p.answerBits * p.columns + p.hints + p.rows

end Parameters

/-! ### Sampling -/

/-- Coefficients from groups of three octets, without those that are too large. -/
def acceptUniform : Bytes → List Nat
  | a :: b :: c :: rest =>
    let n := a.toNat + 256 * b.toNat + 65536 * (c.toNat % 128)
    if n < modulus then n :: acceptUniform rest else acceptUniform rest
  | _ => []

/-- The values of a polynomial that a seed stands for. -/
def uniform (seed : Bytes) : Polynomial := (acceptUniform (shake128 seed 1344)).take degree

/-- The matrix that a seed stands for, row by row. -/
def matrix (p : Parameters) (seed : Bytes) : List (List Polynomial) :=
  (List.range p.rows).map fun row => (List.range p.columns).map fun column =>
    uniform (seed ++ [UInt8.ofNat column, UInt8.ofNat row])

/-- A coefficient of a secret from half an octet. -/
def acceptSmall (bound n : Nat) : Option Nat :=
  if bound = 2 then (if n < 15 then some (Modular.sub modulus 2 (n % 5)) else none)
  else if n < 9 then some (Modular.sub modulus 4 n) else none

/-- A secret polynomial that a seed stands for. -/
def small (bound : Nat) (seed : Bytes) : Polynomial :=
  ((shake256 seed 1088).flatMap fun b =>
    [b.toNat % 16, b.toNat / 16].filterMap (acceptSmall bound)).take degree

/-- Places the signs of a challenge, from a position on, at places that a stream picks. -/
def place (signs position : Nat) (f : Polynomial) : Bytes → Polynomial
  | [] => f
  | b :: rest =>
    if position = degree then f
    else if position < b.toNat then place signs position f rest
    else
      let f := f.set position (f.getD b.toNat 0)
      place (signs / 2) (position + 1)
        (f.set b.toNat (if signs % 2 = 1 then modulus - 1 else 1)) rest

/-- The challenge that some octets stand for. -/
def challenge (p : Parameters) (seed : Bytes) : Polynomial :=
  let stream := shake256 seed 1088
  place (Bytes.toLittle (stream.take 8)) (degree - p.weight) .zero (stream.drop 8)

/-! ### High and low bits -/

/-- The low bits that are left out of a public key. -/
def droppedBits : Nat := 13

/-- The high bits of a coefficient; what is left is between minus a half and a half of their
unit. -/
def highBits (a : Nat) : Nat := (a + Nat.pow 2 (droppedBits - 1) - 1) / Nat.pow 2 droppedBits

/-- The range of a coefficient, counted round, and whether it is above the middle of its range. -/
def rangeOf (p : Parameters) (a : Nat) : Nat × Bool :=
  let width := 2 * p.halfRange
  let range := (a + p.halfRange - 1) / width
  (range % p.ranges, range < p.ranges && width * range < a)

/-- The range of a coefficient, moved to the next one where there is a hint. -/
def useHint (p : Parameters) (hint : Bool) (a : Nat) : Nat :=
  match rangeOf p a with
  | (range, above) =>
    if hint then (if above then (range + 1) % p.ranges else (range + p.ranges - 1) % p.ranges)
    else range

/-! ### Keys -/

/-- The product of a matrix and a vector of values, as polynomials. -/
def product (rows : List (List Polynomial)) (vector : List Polynomial) : List Polynomial :=
  rows.map fun row => Polynomial.restore (Polynomial.sum (List.zipWith Polynomial.mul row vector))

/-- The public key of a seed for the matrix and a vector. -/
def encodeKey (seed : Bytes) (vector : List Polynomial) : Bytes :=
  seed ++ vector.flatMap fun f => pack 10 (f.map highBits)

/-- Numbers of `width` bits, each a coefficient's distance below a bound. -/
def packBelow (bound width : Nat) (f : Polynomial) : Bytes :=
  pack width (f.map (Modular.sub modulus bound))

/-- Coefficients from their distances below a bound. -/
def unpackBelow (bound width : Nat) (b : Bytes) : Polynomial :=
  (unpack width b).map (Modular.sub modulus bound)

/-- The secrets of a private key: seeds for the matrix and for signing, and two short vectors. -/
structure Secrets where
  matrixSeed : Bytes
  signingSeed : Bytes
  short : List Polynomial
  error : List Polynomial

/-- **A public key and its private one.** -/
structure KeyPair where
  publicKey : Bytes
  privateKey : Bytes
deriving DecidableEq, Repr

/-- The two keys with given secrets. -/
def KeyPair.ofSecrets (p : Parameters) (s : Secrets) : KeyPair :=
  let image := product (matrix p s.matrixSeed) (s.short.map Polynomial.transform)
  let vector := List.zipWith Polynomial.add image s.error
  let publicKey := encodeKey s.matrixSeed vector
  let low := vector.map fun f =>
    f.map fun a => Modular.sub modulus a (Nat.pow 2 droppedBits * highBits a)
  ⟨publicKey,
    s.matrixSeed ++ s.signingSeed ++ shake256 publicKey 64 ++
      (s.short ++ s.error).flatMap (packBelow p.secretBound p.secretBits) ++
      low.flatMap (packBelow (Nat.pow 2 (droppedBits - 1)) droppedBits)⟩

/-- **The two keys of a seed.** -/
def KeyPair.ofSeed (p : Parameters) (seed : Bytes) : KeyPair :=
  let expanded := shake256 (seed ++ [UInt8.ofNat p.rows, UInt8.ofNat p.columns]) 128
  let secret (i : Nat) := small p.secretBound ((expanded.drop 32).take 64 ++ Bytes.ofLittle 2 i)
  .ofSecrets p
    { matrixSeed := expanded.take 32
      signingSeed := expanded.drop 96
      short := (List.range p.columns).map secret
      error := (List.range p.rows).map fun i => secret (p.columns + i) }

/-- **The public key of an expanded private key**, which has to be one in all its parts. -/
def publicKeyOf? (p : Parameters) (b : Bytes) : Option Bytes :=
  let size := 32 * p.secretBits
  let vectors := ((Bytes.pieces size ((b.drop 128).take (size * (p.columns + p.rows)))).map
    (unpackBelow p.secretBound p.secretBits))
  let pair := KeyPair.ofSecrets p
    ⟨b.take 32, (b.drop 32).take 32, vectors.take p.columns, vectors.drop p.columns⟩
  if vectors.all (fun f => f.norm ≤ p.secretBound) ∧ pair.privateKey = b then some pair.publicKey
  else none

/-! ### Verification -/

/-- The hints of the rows, each as places in increasing order: the ends of the rows are listed
behind the places, and unused places are zero. -/
def hintRows? : (start : Nat) → (ends : List Nat) → (places : List Nat) → Option (List (List Nat))
  | _, [], places => if places.all (· == 0) then some [] else none
  | start, e :: ends, places =>
    let row := places.take (e - start)
    if start ≤ e ∧ e - start ≤ places.length ∧ row.Pairwise (· < ·) then
      (hintRows? e ends (places.drop (e - start))).map (row :: ·)
    else none

/-- Reads the hints of a signature. -/
def hints? (p : Parameters) (b : Bytes) : Option (List (List Nat)) :=
  let n := b.map UInt8.toNat
  hintRows? 0 (n.drop p.hints) (n.take p.hints)

/-- The high bits that the verifier finds, row by row. -/
def commitment (p : Parameters) (key : Bytes) (challenge : Polynomial) (answer : List Polynomial)
    (hints : List (List Nat)) : Bytes :=
  let images := (matrix p (key.take 32)).map fun row =>
    Polynomial.sum (List.zipWith Polynomial.mul row (answer.map Polynomial.transform))
  let c := Polynomial.transform challenge
  let vector := (Bytes.pieces 320 (key.drop 32)).map fun b =>
    Polynomial.mul c (Polynomial.transform ((unpack 10 b).map (Nat.pow 2 droppedBits * ·)))
  let differences := (List.zipWith Polynomial.sub images vector).map Polynomial.restore
  (List.zip differences hints).flatMap fun (f, places) =>
    pack p.rangeBits ((List.range degree).map fun i =>
      useHint p (places.contains i) (f.getD i 0))

/-- **Whether a signature is good** for a message and a key. -/
def verify (level : Level) (key message signature : Bytes) : Bool :=
  let p := level.parameters
  let seed := signature.take p.challengeSize
  let size := 32 * p.answerBits
  let body := signature.drop p.challengeSize
  let answer := (Bytes.pieces size (body.take (size * p.columns))).map
    (unpackBelow p.answerBound p.answerBits)
  match hints? p (body.drop (size * p.columns)) with
  | none => false
  | some hints =>
    let bound := p.answerBound - p.weight * p.secretBound
    let digest := shake256 (shake256 key 64 ++ [0, 0] ++ message) 64
    key.length == p.publicKeySize && signature.length == p.signatureSize &&
      answer.all (fun f => f.norm < bound) &&
      shake256 (digest ++ commitment p key (challenge p seed) answer hints) p.challengeSize == seed

end SecureStream.Crypto.Lattice.MlDsa
