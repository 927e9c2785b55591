import SecureStream.Crypto.Sha2

/-! # Signatures and shares over the field of order `2 ^ 255 - 19`

Signatures use the twisted Edwards curve `-x² + y² = 1 + d·x²·y²`. A point is written as its second
coordinate with the parity of the first in the top bit; numbers are little-endian.

A share of a key exchange is the first coordinate of a point in Montgomery form, without its top
bit. A point of small order would fix the outcome of the exchange, so that none is accepted. -/

namespace SecureStream.Crypto.Edwards

open Sha2 (Digest)

/-- The order of the field. -/
def field : Nat := Nat.pow 2 255 - 19

/-- The order of the base point. -/
def order : Nat := Nat.pow 2 252 + 27742317777372353535851937790883648493

/-- The coefficient of the curve. -/
def coefficient : Nat := Modular.sub field 0 (121665 * Modular.inverse field 121666)

/-- A square root of `-1`. -/
def rootOfMinusOne : Nat := Modular.power field 2 ((field - 1) / 4)

/-- A point `(X : Y : Z : T)` with `x = X / Z`, `y = Y / Z` and `T = X · Y / Z`. -/
structure Point where
  x : Nat
  y : Nat
  z : Nat
  t : Nat
deriving DecidableEq, Repr

namespace Point

/-- The neutral point. -/
def zero : Point := ⟨0, 1, 1, 0⟩

/-- The point with the given coordinates. -/
def ofAffine (x y : Nat) : Point := ⟨x, y, 1, x * y % field⟩

/-- The sum of two points. -/
def add (p q : Point) : Point :=
  let a := Modular.sub field p.y p.x * Modular.sub field q.y q.x % field
  let b := (p.y + p.x) * (q.y + q.x) % field
  let c := 2 * p.t * (coefficient * q.t % field) % field
  let d := 2 * p.z * q.z % field
  let e := Modular.sub field b a
  let f := Modular.sub field d c
  let g := d + c
  let h := b + a
  ⟨e * f % field, g * h % field, f * g % field, e * h % field⟩

/-- A point so many times. -/
def times (n : Nat) (p : Point) : Point :=
  if n = 0 then zero
  else
    let half := times (n / 2) (add p p)
    if n % 2 = 1 then add half p else half
termination_by n
decreasing_by omega

/-- The point opposite to a point. -/
def negate (p : Point) : Point :=
  { p with x := Modular.sub field 0 p.x, t := Modular.sub field 0 p.t }

/-- The written form. -/
def encode (p : Point) : Bytes :=
  let i := Modular.inverse field p.z
  Bytes.ofLittle 32 (p.y * i % field + Nat.pow 2 255 * (p.x * i % field % 2))

/-- The first coordinate that belongs to a second one, with the given parity. -/
def recover? (y parity : Nat) : Option Nat :=
  let yy := y * y % field
  let u := Modular.sub field yy 1
  let v := (coefficient * yy + 1) % field
  let candidate := u * Modular.power field v 3 % field *
    Modular.power field (u * Modular.power field v 7) ((field - 5) / 8) % field
  let square := v * (candidate * candidate % field) % field
  let root? :=
    if square = u then some candidate
    else if square = Modular.sub field 0 u then some (candidate * rootOfMinusOne % field)
    else none
  root?.bind fun x =>
    if x = 0 ∧ parity = 1 then none
    else some (if x % 2 = parity then x else field - x)

/-- Reads a written form. -/
def decode? (b : Bytes) : Option Point :=
  let n := Bytes.toLittle b
  let y := n % Nat.pow 2 255
  if b.length = 32 ∧ y < field then (recover? y (n / Nat.pow 2 255)).map fun x => ofAffine x y
  else none

end Point

/-- The base point. -/
def base : Point :=
  let y := 4 * Modular.inverse field 5 % field
  .ofAffine ((Point.recover? y 0).getD 0) y

/-- The multiplier that a seed stands for. -/
def multiplier (seed : Bytes) : Nat :=
  let n := Bytes.toLittle ((Digest.sha512.of seed).take 32)
  n % Nat.pow 2 254 / 8 * 8 + Nat.pow 2 254

/-- The public key of a seed. -/
def publicKey (seed : Bytes) : Bytes := (Point.times (multiplier seed) base).encode

/-- **Whether a signature is good** for a message and a key. -/
def verify (key message signature : Bytes) : Bool :=
  let r := signature.take 32
  let s := Bytes.toLittle (signature.drop 32)
  match Point.decode? key with
  | none => false
  | some a =>
    let k := Bytes.toLittle (Digest.sha512.of (r ++ key ++ message)) % order
    signature.length == 64 && s < order &&
      (Point.add (Point.times s base) (Point.times k a.negate)).encode == r

end SecureStream.Crypto.Edwards

/-! ### Shares of a key exchange -/

namespace SecureStream.Crypto.Montgomery

/-- The octets of a share. -/
def size : Nat := 32

/-- The first coordinates of the points whose order divides eight, on the curve and on its twist. -/
def smallOrders : List Nat :=
  [0, 1, Edwards.field - 1,
    0x00b8495f16056286fdb1329ceb8d09da6ac49ff1fae35616aeb8413b7c7aebe0,
    0x57119fd0dd4e22d8868e1c58c45c44045bef839c55b1d0b1248c50a3bc959c5f]

/-- **Whether octets are a share** that leaves the outcome open. -/
def isShare (b : Bytes) : Bool :=
  b.length == size && (Bytes.toLittle b % Nat.pow 2 255 % Edwards.field) ∉ smallOrders

end SecureStream.Crypto.Montgomery
