import SecureStream.Der.Writer
import SecureStream.Signature.Algorithm
import SecureStream.X509.Certificate

/-! # Public keys of certificates

The contents of a key element: the identifier of its algorithm, and the key.

The keys of authorities that have lost the trust that was put into them are listed (`Distrust`): a
certificate with such a key is rejected whoever issued it and whatever it says. -/

namespace SecureStream.X509

open Tls (CertificateError)

/-- A public key with the contents of its algorithm's identifier. -/
structure PublicKey where
  algorithm : Bytes
  key : Bytes
deriving DecidableEq, Repr

namespace PublicKey

/-- Reads the contents of a key element. -/
def read (b : Bytes) : Except CertificateError PublicKey := do
  let (algorithm, rest) ← present (Der.expect? Der.sequence b)
  let (key, rest) ← wholeBits rest
  exhausted rest
  return ⟨algorithm, key⟩

/-- The contents of a key element. -/
def encode (k : PublicKey) : Bytes :=
  Der.element Der.sequence k.algorithm ++ Der.element Der.bitString (0 :: k.key)

end PublicKey

/-! ### Keys that are not trusted -/

namespace Distrust

/-- The points of the keys, all of them on the curve P-384. -/
def points : List Nat :=
  [0x04e79ed9c04a9773c4735e51111da85ac2bd5e64ab374b80e12cbc2038ec1e4f0e3b812fc9859e1e67afb04e2f8bc97f7485ba65aa911ee8a4e45b62d5cc03d56be678b3c38cb4dc937ca2460e238453c892935d29d44f91e15606b63ccedab468,
    0x043a7a7862c8c44d324ddd69033a6782c0efeefe4055e68a123fa0371ba3bd9194514ee172a433e3630f02bd188037d9e5149f9b77db94a281df987b2fea888b74bdfe8fda4c1099ee6ca19566fe3ef0e5f6b09a556ccc8ba50561df1b2a441d01,
    0x0473897aa0eb3cfdca8b12402ffaf0abc4e1212baf8dee778ac9ee2d6db83fac280c5e05638ae7a2acd71c322a8e361cdeb9f69c4302b9dd8d73d1cc6caab2cc0aee4e216ce979dd518a4af4b626e5684cdd658037ed0c854e4cc12f4cf8646d0d]

/-- The contents of their key elements. -/
def keys : List Bytes :=
  points.map fun n => PublicKey.encode ⟨Signature.ecKey .p384, Bytes.ofNat 97 n⟩

/-- **Whether a key is not trusted**, by the contents of its element. -/
def isDistrusted (publicKey : Bytes) : Bool := keys.contains publicKey

end Distrust

end SecureStream.X509
