/-! # Signature schemes

The code points by which the two sides of a handshake agree on a way to sign. -/

namespace SecureStream.Signature

/-- A way to sign. -/
structure Scheme where
  code : Nat
deriving DecidableEq, Repr

namespace Scheme

def rsaPkcs1Sha256 : Scheme := ⟨0x0401⟩
def ecdsaP256Sha256 : Scheme := ⟨0x0403⟩
def rsaPkcs1Sha384 : Scheme := ⟨0x0501⟩
def ecdsaP384Sha384 : Scheme := ⟨0x0503⟩
def rsaPkcs1Sha512 : Scheme := ⟨0x0601⟩
def ecdsaP521Sha512 : Scheme := ⟨0x0603⟩
def rsaPssSha256 : Scheme := ⟨0x0804⟩
def rsaPssSha384 : Scheme := ⟨0x0805⟩
def rsaPssSha512 : Scheme := ⟨0x0806⟩
def ed25519 : Scheme := ⟨0x0807⟩
def mlDsa44 : Scheme := ⟨0x0904⟩
def mlDsa65 : Scheme := ⟨0x0905⟩
def mlDsa87 : Scheme := ⟨0x0906⟩

/-- The registered name of a code. -/
def nameOf? : Nat → Option String
  | 0x0401 => "RSA_PKCS1_SHA256"
  | 0x0403 => "ECDSA_NISTP256_SHA256"
  | 0x0501 => "RSA_PKCS1_SHA384"
  | 0x0503 => "ECDSA_NISTP384_SHA384"
  | 0x0601 => "RSA_PKCS1_SHA512"
  | 0x0603 => "ECDSA_NISTP521_SHA512"
  | 0x0804 => "RSA_PSS_SHA256"
  | 0x0805 => "RSA_PSS_SHA384"
  | 0x0806 => "RSA_PSS_SHA512"
  | 0x0807 => "ED25519"
  | 0x0904 => "ML_DSA_44"
  | 0x0905 => "ML_DSA_65"
  | 0x0906 => "ML_DSA_87"
  | _ => none

/-- The name, or the code in hexadecimal where none is registered. -/
def name (x : Scheme) : String :=
  match nameOf? x.code with
  | some n => n
  | none => "SignatureScheme(0x" ++ String.ofList (Nat.toDigits 16 x.code) ++ ")"

end Scheme

end SecureStream.Signature
