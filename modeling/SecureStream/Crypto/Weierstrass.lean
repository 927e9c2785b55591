import SecureStream.Crypto.Modular
import SecureStream.Bytes

/-! # Curves in short Weierstrass form

The points of `y² = x³ + a·x + b` over a prime field, with an addition and multiples. Points are
held as `(X : Y : Z)` with `x = X / Z²` and `y = Y / Z³`, so that an addition takes no inverse;
`Z = 0` is the neutral point. -/

namespace SecureStream.Crypto.Weierstrass

/-- A curve with a base point of prime order. -/
structure Curve where
  /-- The order of the field. -/
  field : Nat
  a : Nat
  b : Nat
  baseX : Nat
  baseY : Nat
  /-- The order of the base point. -/
  order : Nat
  /-- The octets of a coordinate. -/
  size : Nat
deriving DecidableEq, Repr

/-- The curve P-256. -/
def p256 : Curve where
  field := 0xffffffff00000001000000000000000000000000ffffffffffffffffffffffff
  a := 0xffffffff00000001000000000000000000000000fffffffffffffffffffffffc
  b := 0x5ac635d8aa3a93e7b3ebbd55769886bc651d06b0cc53b0f63bce3c3e27d2604b
  baseX := 0x6b17d1f2e12c4247f8bce6e563a440f277037d812deb33a0f4a13945d898c296
  baseY := 0x4fe342e2fe1a7f9b8ee7eb4a7c0f9e162bce33576b315ececbb6406837bf51f5
  order := 0xffffffff00000000ffffffffffffffffbce6faada7179e84f3b9cac2fc632551
  size := 32

/-- The curve P-384. -/
def p384 : Curve where
  field := 0xfffffffffffffffffffffffffffffffffffffffffffffffffffffffffffffffeffffffff0000000000000000ffffffff
  a := 0xfffffffffffffffffffffffffffffffffffffffffffffffffffffffffffffffeffffffff0000000000000000fffffffc
  b := 0xb3312fa7e23ee7e4988e056be3f82d19181d9c6efe8141120314088f5013875ac656398d8a2ed19d2a85c8edd3ec2aef
  baseX := 0xaa87ca22be8b05378eb1c71ef320ad746e1d3b628ba79b9859f741e082542a385502f25dbf55296c3a545e3872760ab7
  baseY := 0x3617de4a96262c6f5d9e98bf9292dc29f8f41dbd289a147ce9da3113b5f0b8c00a60b1ce1d7e819d7a431d7c90ea0e5f
  order := 0xffffffffffffffffffffffffffffffffffffffffffffffffc7634d81f4372ddf581a0db248b0a77aecec196accc52973
  size := 48

/-- The curve P-521. -/
def p521 : Curve where
  field := Nat.pow 2 521 - 1
  a := Nat.pow 2 521 - 4
  b := 0x0051953eb9618e1c9a1f929a21a0b68540eea2da725b99b315f3b8b489918ef109e156193951ec7e937b1652c0bd3bb1bf073573df883d2c34f1ef451fd46b503f00
  baseX := 0x00c6858e06b70404e9cd9e3ecb662395b4429c648139053fb521f828af606b4d3dbaa14b5e77efe75928fe1dc127a2ffa8de3348b3c1856a429bf97e7e31c2e5bd66
  baseY := 0x011839296a789a3bc0045c8a5fb42c7d1bd998f54449579b446817afbd17273e662c97ee72995ef42640c550b9013fad0761353c7086a272c24088be94769fd16650
  order := 0x01fffffffffffffffffffffffffffffffffffffffffffffffffffffffffffffffffa51868783bf2f966b7fcc0148f709a5d03bb5c9b8899c47aebb6fb71e91386409
  size := 66

/-- A point. -/
structure Point where
  x : Nat
  y : Nat
  z : Nat
deriving DecidableEq, Repr

namespace Point

/-- The neutral point. -/
def zero : Point := ⟨1, 1, 0⟩

/-- A point with itself. -/
def double (c : Curve) (p : Point) : Point :=
  let q := c.field
  if p.z = 0 ∨ p.y = 0 then zero
  else
    let yy := p.y * p.y % q
    let s := 4 * p.x * yy % q
    let zz := p.z * p.z % q
    let m := (3 * p.x * p.x + c.a * (zz * zz % q)) % q
    let x := Modular.sub q (m * m) (2 * s)
    ⟨x, Modular.sub q (m * Modular.sub q s x) (8 * yy * yy), 2 * p.y * p.z % q⟩

/-- The sum of two points. -/
def add (c : Curve) (p r : Point) : Point :=
  let q := c.field
  if p.z = 0 then r
  else if r.z = 0 then p
  else
    let pz := p.z * p.z % q
    let rz := r.z * r.z % q
    let u := p.x * rz % q
    let v := r.x * pz % q
    let s := p.y * (rz * r.z % q) % q
    let t := r.y * (pz * p.z % q) % q
    if u = v then (if s = t then double c p else zero)
    else
      let h := Modular.sub q v u
      let d := Modular.sub q t s
      let hh := h * h % q
      let hhh := hh * h % q
      let w := u * hh % q
      let x := Modular.sub q (d * d) (hhh + 2 * w)
      ⟨x, Modular.sub q (d * Modular.sub q w x) (s * hhh), h * (p.z * r.z % q) % q⟩

/-- A point so many times. -/
def times (c : Curve) (n : Nat) (p : Point) : Point :=
  if n = 0 then zero
  else
    let half := times c (n / 2) (double c p)
    if n % 2 = 1 then add c half p else half
termination_by n
decreasing_by omega

/-- The coordinates of a point other than the neutral one. -/
def coordinates? (c : Curve) (p : Point) : Option (Nat × Nat) :=
  if p.z = 0 then none
  else
    let i := Modular.inverse c.field p.z
    let ii := i * i % c.field
    some (p.x * ii % c.field, p.y * (ii * i % c.field) % c.field)

end Point

namespace Curve

/-- The base point. -/
def base (c : Curve) : Point := ⟨c.baseX, c.baseY, 1⟩

/-- Whether coordinates are those of a point. -/
def isOn (c : Curve) (x y : Nat) : Bool :=
  x < c.field && y < c.field && y * y % c.field == (x * x * x + c.a * x + c.b) % c.field

/-- The point with a first coordinate whose second one has a parity. -/
def withParity? (c : Curve) (x parity : Nat) : Option Point :=
  let square := (x * x * x + c.a * x + c.b) % c.field
  let root := Modular.power c.field square ((c.field + 1) / 4)
  if x < c.field ∧ root * root % c.field = square ∧ ¬(root = 0 ∧ parity = 1) then
    some ⟨x, if root % 2 = parity then root else c.field - root, 1⟩
  else none

/-- Reads a point in the form with both coordinates. -/
def point? (c : Curve) (b : Bytes) : Option Point :=
  match b with
  | 0x04 :: rest =>
    let x := Bytes.toNat (rest.take c.size)
    let y := Bytes.toNat (rest.drop c.size)
    if rest.length = 2 * c.size ∧ c.isOn x y then some ⟨x, y, 1⟩ else none
  | _ => none

/-- Reads a point in the form with both coordinates, or with the first one and the parity of the
second. -/
def anyPoint? (c : Curve) (b : Bytes) : Option Point :=
  match b with
  | 0x02 :: rest => if rest.length = c.size then c.withParity? (Bytes.toNat rest) 0 else none
  | 0x03 :: rest => if rest.length = c.size then c.withParity? (Bytes.toNat rest) 1 else none
  | _ => point? c b

/-- A point in the form with both coordinates. -/
def encode? (c : Curve) (p : Point) : Option Bytes :=
  (p.coordinates? c).map fun (x, y) => 0x04 :: (Bytes.ofNat c.size x ++ Bytes.ofNat c.size y)

/-- The public key of a private one. -/
def publicKey? (c : Curve) (secret : Nat) : Option Bytes :=
  if 0 < secret ∧ secret < c.order then c.encode? (Point.times c secret c.base) else none

end Curve

end SecureStream.Crypto.Weierstrass
