import SecureStream.Registry
import SecureStream.Signature.Algorithm
import SecureStream.Tls.KeyGroup
import SecureStream.TransportConfig.Basic

/-! # Cryptographic providers

What a session may use: cipher suites, groups for the key exchange, signature algorithms and a
source of random bytes. A certificate profile narrows the signature algorithms. -/

namespace SecureStream

namespace Tls

/-- A version of the protocol. -/
inductive Version
  | v12
  | v13
deriving DecidableEq, Repr

/-- The name of a version. -/
def Version.name : Version → String
  | v12 => "TLSv1_2"
  | v13 => "TLSv1_3"

/-- How the server of a version 1.2 suite signs. -/
inductive KeyFamily
  | ecdsa
  | rsa
deriving DecidableEq, Repr

/-- The code points of the schemes of a family, with those that are no longer used. -/
def KeyFamily.codes : KeyFamily → List Nat
  | ecdsa => [0x0203, 0x0403, 0x0503, 0x0603, 0x0807]
  | rsa => [0x0201, 0x0401, 0x0501, 0x0601, 0x0804, 0x0805, 0x0806]

/-- A cipher suite. Those of version 1.2 are bound to a way to sign. -/
structure Suite where
  code : Nat
  name : String
  version : Version
  signer : Option KeyFamily
deriving DecidableEq, Repr

namespace Suite

/-- The suites of version 1.3. -/
def ofVersion13 : List Suite :=
  [(0x1302, "AES_256_GCM_SHA384"), (0x1301, "AES_128_GCM_SHA256"),
    (0x1303, "CHACHA20_POLY1305_SHA256")].map fun (code, cipher) =>
      ⟨code, "TLS13_" ++ cipher, .v13, none⟩

/-- The suites of version 1.2. -/
def ofVersion12 : List Suite :=
  [(0xc02c, "ECDSA_WITH_AES_256_GCM_SHA384", .ecdsa),
    (0xc02b, "ECDSA_WITH_AES_128_GCM_SHA256", .ecdsa),
    (0xcca9, "ECDSA_WITH_CHACHA20_POLY1305_SHA256", .ecdsa),
    (0xc030, "RSA_WITH_AES_256_GCM_SHA384", .rsa),
    (0xc02f, "RSA_WITH_AES_128_GCM_SHA256", .rsa),
    (0xcca8, "RSA_WITH_CHACHA20_POLY1305_SHA256", .rsa)].map fun (code, cipher, signer) =>
      ⟨code, "TLS_ECDHE_" ++ cipher, .v12, some signer⟩

end Suite

end Tls

/-- **What a session may use.** -/
structure Provider where
  suites : List Tls.Suite
  groups : List Tls.KeyGroup
  signatures : Signature.Table
  entropy : Entropy
deriving DecidableEq

namespace Provider

/-- Everything that the library knows, with a source of random bytes. -/
def standard (source : Entropy) : Provider :=
  ⟨Tls.Suite.ofVersion13 ++ Tls.Suite.ofVersion12, Tls.KeyGroup.standard, .standard, source⟩

/-- Whether a session can be made at all: with a suite and a group. -/
def checkUsable (p : Provider) : Except TlsError Unit :=
  if p.suites.isEmpty then .error (.general "no usable cipher suites configured")
  else if p.groups.isEmpty then .error (.general "no kx groups configured")
  else .ok ()

end Provider

/-! ### Profiles -/

namespace CertificateProfile

open Signature

/-- Whether an algorithm has the identifiers of another. -/
def hasIdentifiersOf (a b : Algorithm) : Bool :=
  a.publicKey == b.publicKey && a.signature == b.signature

/-- **Suite B**: the schemes with the algorithm of each. -/
def suiteBPairs : List (Scheme × Algorithm) :=
  [(.ecdsaP256Sha256, ecdsa .p256 .sha256), (.ecdsaP384Sha384, ecdsa .p384 .sha384)]

/-- Whether a profile allows a scheme. -/
def allows : CertificateProfile → Scheme → Bool
  | default, _ => true
  | suiteB, s => suiteBPairs.any fun p => p.1 == s

/-- The first algorithm of a table with the identifiers of each pair, where there is one. -/
def suiteBAlgorithms (t : Table) : List Algorithm :=
  suiteBPairs.filterMap fun p => t.algorithms.find? (hasIdentifiersOf · p.2)

/-- **A table narrowed to Suite B.** -/
def suiteBTable (t : Table) : Table where
  algorithms := suiteBAlgorithms t
  schemes := suiteBPairs.filterMap fun p =>
    ((suiteBAlgorithms t).find? (hasIdentifiersOf · p.2)).map fun a => (p.1, [a])

/-- **A provider narrowed to a profile.** -/
def restrict : CertificateProfile → Provider → Provider
  | default, p => p
  | suiteB, p => { p with signatures := suiteBTable p.signatures }

end CertificateProfile

end SecureStream
