import SecureStream.Crypto.Edwards
import SecureStream.Crypto.Weierstrass

/-! # Groups for the key exchange

In a key exchange each side shows a share. The groups differ in what a share is; one of them joins a
lattice scheme with an older group, and its shares are those of both behind one another. -/

namespace SecureStream.Tls

open Crypto

/-- A group for the key exchange, with the octets of the shares of the two sides. -/
structure KeyGroup where
  name : String
  code : Nat
  clientSize : Nat
  serverSize : Nat
deriving DecidableEq, Repr

namespace KeyGroup

def x25519 : KeyGroup := ⟨"X25519", 0x001d, 32, 32⟩
def secp256r1 : KeyGroup := ⟨"secp256r1", 0x0017, 65, 65⟩
def secp384r1 : KeyGroup := ⟨"secp384r1", 0x0018, 97, 97⟩

/-- The octets of what the lattice scheme sends back. -/
def encapsulationSize : Nat := 1088

/-- The lattice scheme joined with the group `x25519`. -/
def x25519MlKem768 : KeyGroup := ⟨"X25519MLKEM768", 0x11ec, 1216, encapsulationSize + 32⟩

/-- The groups that are known, best first. -/
def standard : List KeyGroup := [x25519MlKem768, x25519, secp256r1, secp384r1]

/-- The groups of which a client shows a share at once: the best, and the one that is part of it. -/
def shared : List KeyGroup := [x25519MlKem768, x25519]

/-- The groups of version 1.2. -/
def ofVersion12 : List KeyGroup := standard.filter (· != x25519MlKem768)

/-- **Whether octets are a share of the server** in a group. -/
def isShare (g : KeyGroup) (b : Bytes) : Bool :=
  if g = x25519MlKem768 then
    b.length == g.serverSize && Montgomery.isShare (b.drop encapsulationSize)
  else if g = x25519 then Montgomery.isShare b
  else if g = secp256r1 then (Weierstrass.p256.point? b).isSome
  else if g = secp384r1 then (Weierstrass.p384.point? b).isSome
  else false

end KeyGroup

end SecureStream.Tls
