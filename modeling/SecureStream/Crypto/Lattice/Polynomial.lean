import SecureStream.Bytes
import SecureStream.Crypto.Modular

/-! # Polynomials over a small field

Polynomials with 256 coefficients modulo `2 ^ 23 - 2 ^ 13 + 1`, multiplied modulo `x ^ 256 + 1`. The
field has a root of unity of order 512, so that a polynomial is told by its values at 256 points and
a product is taken point by point.

* `transform`, `restore`: the values of a polynomial, and the polynomial with given values.
* `pack`, `unpack`: numbers of a width in bits, one behind another. -/

namespace SecureStream.Crypto.Lattice

/-- The order of the field. -/
def modulus : Nat := 8380417

/-- The number of coefficients. -/
def degree : Nat := 256

/-- The coefficients of a polynomial, or its values. -/
abbrev Polynomial := List Nat

namespace Polynomial

/-! ### Point by point -/

/-- The sum. -/
def add (f g : Polynomial) : Polynomial := List.zipWith (fun a b => (a + b) % modulus) f g

/-- The difference. -/
def sub (f g : Polynomial) : Polynomial := List.zipWith (Modular.sub modulus) f g

/-- The product of values. -/
def mul (f g : Polynomial) : Polynomial := List.zipWith (fun a b => a * b % modulus) f g

/-- A polynomial times a number. -/
def scale (n : Nat) (f : Polynomial) : Polynomial := f.map fun a => n * a % modulus

/-- The polynomial whose coefficients are zero. -/
def zero : Polynomial := List.replicate degree 0

/-- The sum of several polynomials. -/
def sum (l : List Polynomial) : Polynomial := l.foldl add zero

/-- How far a coefficient is from zero. -/
def magnitude (a : Nat) : Nat := min a (modulus - a)

/-- How far the coefficients are from zero at most. -/
def norm (f : Polynomial) : Nat := f.foldl (fun n a => max n (magnitude a)) 0

/-! ### Values -/

/-- A root of unity of order 512. -/
def root : Nat := 1753

/-- A number below 256 with its eight bits in reverse. -/
def reverseBits (n : Nat) : Nat :=
  (List.range 8).foldl (fun r i => 2 * r + n / Nat.pow 2 i % 2) 0

/-- The power of the root at a node. -/
def twist (node : Nat) : Nat := Modular.power modulus root (reverseBits node)

/-- The powers at all nodes. -/
def twists : Array Nat := (Array.range degree).map twist

/-- Their inverses. -/
def untwists : Array Nat := twists.map (Modular.inverse modulus)

/-- **The values of a polynomial.** Modulo `x ^ 2n - z ^ 2` it is told by what it is modulo
`x ^ n - z` and modulo `x ^ n + z`; `node` counts these factors from the root down, and `depth`
halvings are left. -/
def transformAt : (depth node : Nat) → Polynomial → Polynomial
  | 0, _, f => f
  | depth + 1, node, f =>
    let half := Nat.pow 2 depth
    let low := f.take half
    let high := scale (twists.getD node 0) (f.drop half)
    transformAt depth (2 * node) (add low high) ++ transformAt depth (2 * node + 1) (sub low high)

/-- **The values of a polynomial.** -/
def transform (f : Polynomial) : Polynomial := transformAt 8 1 f

/-- The polynomial with given values, but for a factor of two for each halving. -/
def restoreAt : (depth node : Nat) → Polynomial → Polynomial
  | 0, _, f => f
  | depth + 1, node, f =>
    let half := Nat.pow 2 depth
    let left := restoreAt depth (2 * node) (f.take half)
    let right := restoreAt depth (2 * node + 1) (f.drop half)
    add left right ++ scale (untwists.getD node 0) (sub left right)

/-- **The polynomial with given values.** -/
def restore (f : Polynomial) : Polynomial :=
  scale (Modular.inverse modulus degree) (restoreAt 8 1 f)

end Polynomial

/-! ### Packing -/

/-- Numbers of `width` bits, one behind another from the lowest bit on. -/
def pack (width : Nat) (l : List Nat) : Bytes :=
  Bytes.ofLittle (width * l.length / 8) (l.foldr (fun a n => a + Nat.pow 2 width * n) 0)

/-- The numbers of `width` bits in octets. -/
def unpack (width : Nat) (b : Bytes) : List Nat :=
  let n := b.toLittle
  (List.range (8 * b.length / width)).map fun i => (n >>> (width * i)) % Nat.pow 2 width

end SecureStream.Crypto.Lattice
