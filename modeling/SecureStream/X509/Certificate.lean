import SecureStream.Der.Reader
import SecureStream.Tls.CertificateError

/-! # X.509 certificates

A certificate is read into its parts without judging them: signatures, dates, names and keys are
kept as the octets they are.

* `Certificate.read`: a certificate of version 3.
* `TrustAnchor.ofBytes`: what is kept of a trusted certificate, which may be of version 1. -/

namespace SecureStream.X509

open Tls (CertificateError EncodingDefect)

/-- What extensions say, each as the contents of its value. -/
structure Extensions where
  keyUsage : Option Bytes
  subjectAltName : Option Bytes
  basicConstraints : Option Bytes
  nameConstraints : Option Bytes
  crlDistributionPoints : Option Bytes
  extendedKeyUsage : Option Bytes
deriving DecidableEq, Repr

namespace Extensions

/-- No extension. -/
def none : Extensions := ⟨.none, .none, .none, .none, .none, .none⟩

/-- The value kept under a number of the arc 2.5.29, `none` for a number that is not kept. -/
def slot? (x : Extensions) : Nat → Option (Option Bytes)
  | 15 => some x.keyUsage
  | 17 => some x.subjectAltName
  | 19 => some x.basicConstraints
  | 30 => some x.nameConstraints
  | 31 => some x.crlDistributionPoints
  | 37 => some x.extendedKeyUsage
  | _ => .none

/-- Keeps a value under a number. -/
def put (x : Extensions) (value : Bytes) : Nat → Extensions
  | 15 => { x with keyUsage := some value }
  | 17 => { x with subjectAltName := some value }
  | 19 => { x with basicConstraints := some value }
  | 30 => { x with nameConstraints := some value }
  | 31 => { x with crlDistributionPoints := some value }
  | 37 => { x with extendedKeyUsage := some value }
  | _ => x

end Extensions

/-- **A certificate in its parts.** Each part is the contents of its element; `signed` is the part
that the signature covers, with its header. -/
structure Certificate where
  encoded : Bytes
  signed : Bytes
  algorithm : Bytes
  signature : Bytes
  serial : Bytes
  issuer : Bytes
  validity : Bytes
  subject : Bytes
  publicKey : Bytes
  extensions : Extensions
deriving DecidableEq, Repr

/-! ### Reading -/

/-- What to do about a critical extension that is not known. -/
inductive UnknownCritical
  | refuse
  | ignore
deriving DecidableEq, Repr

/-- The failure of an encoding. -/
def defective {α : Type} (d : EncodingDefect) : Except CertificateError α :=
  .error (.badEncoding d)

/-- A value that has to be there. -/
def present {α : Type} (o : Option α) : Except CertificateError α :=
  match o with
  | some a => .ok a
  | none => defective .malformed

/-- A part that has to stand at its place. -/
def framed {α : Type} (o : Option α) : Except CertificateError α :=
  match o with
  | some a => .ok a
  | none => defective .framing

/-- Nothing may follow. -/
def exhausted (b : Bytes) : Except CertificateError Unit :=
  if b.isEmpty then .ok () else defective .framing

/-- The flag at the front, where there is one. -/
def flag (b : Bytes) : Except CertificateError (Bool × Bytes) :=
  if b.head? = some Der.boolean then do
    let (content, rest) ← framed (Der.expect? Der.boolean b)
    match content with
    | 0xff :: after => (exhausted after).map fun _ => (true, rest)
    | 0x00 :: after => (exhausted after).map fun _ => (false, rest)
    | _ => defective .malformed
  else .ok (false, b)

/-- The octets of a string of whole octets at the front, and what follows it. -/
def wholeBits (b : Bytes) : Except CertificateError (Bytes × Bytes) := do
  let (bits, rest) ← framed (Der.expect? Der.bitString b)
  return (← present (Der.wholeBits? bits), rest)

/-- The number of an extension of the arc 2.5.29. -/
def standardNumber? : (identifier : Bytes) → Option Nat
  | [0x55, 0x1d, n] => some n.toNat
  | _ => none

/-- Keeps the value of an extension, or judges one that is not kept. -/
def keep (unknown : UnknownCritical) (x : Extensions) (number : Nat) (critical : Bool)
    (value : Bytes) : Except CertificateError Extensions :=
  match x.slot? number with
  | none =>
    if critical ∧ unknown = .refuse then .error (.rule .unsupportedCriticalExtension) else .ok x
  | some (some _) => .error (.rule .extensionValueInvalid)
  | some none =>
    if number = 15 then .ok (x.put value number)
    else (present (Der.only? Der.sequence value)).map fun content => x.put content number

/-- Takes one extension into account. -/
def remember (unknown : UnknownCritical) (x : Extensions) (body : Bytes) :
    Except CertificateError Extensions := do
  let (identifier, rest) ← present (Der.expect? Der.objectIdentifier body)
  let (critical, rest) ← flag rest
  let (value, after) ← present (Der.expect? Der.octetString rest)
  let x ← keep unknown x ((standardNumber? identifier).getD 0) critical value
  exhausted after
  return x

/-- Takes a list of extensions into account, one after another. -/
def rememberAll (unknown : UnknownCritical) (x : Extensions) (b : Bytes) :
    Except CertificateError Extensions :=
  match _h : Der.expect? Der.sequence b with
  | none => defective .framing
  | some (body, rest) =>
    match remember unknown x body with
    | .error e => .error e
    | .ok x => if rest.isEmpty then .ok x else rememberAll unknown x rest
termination_by b.length
decreasing_by exact Der.length_expect? (by assumption)

/-- The extensions at the end of the signed part; an empty list is accepted. -/
def extensionsOf (unknown : UnknownCritical) (b : Bytes) : Except CertificateError Extensions := do
  if b.isEmpty then return .none
  let (tagged, after) ← framed (Der.expect? (Der.context 3) b)
  let (list, afterList) ← framed (Der.expect? Der.sequence tagged)
  let x ← if list.isEmpty then pure .none else rememberAll unknown .none list
  exhausted afterList
  exhausted after
  return x

/-- The version, which has to be the third. -/
def checkVersion (b : Bytes) : Except CertificateError Bytes :=
  match Der.expect? (Der.context 0) b with
  | none => .error (.rule .unsupportedCertVersion)
  | some (content, rest) => do
    let (value, after) ← present (Der.expect? Der.integer content)
    match ← present (Der.natural? value) with
    | [n] =>
      if n = 2 ∧ after.isEmpty then return rest else .error (.rule .unsupportedCertVersion)
    | _ => defective .malformed

/-- The outer frame: the signed part, its contents, the algorithm and the signature. -/
def frame (b : Bytes) : Except CertificateError (Bytes × Bytes × Bytes × Bytes) := do
  let (body, after) ← framed (Der.expect? Der.sequence b)
  let (content, rest) ← present (Der.expect? Der.sequence body)
  let signed := body.take (body.length - rest.length)
  let (algorithm, rest) ← present (Der.expect? Der.sequence rest)
  let (signature, rest) ← wholeBits rest
  exhausted rest
  exhausted after
  return (signed, content, algorithm, signature)

/-- **Reads a certificate of version 3.** The algorithm has to be the same inside and outside of
the signed part. -/
def Certificate.read (unknown : UnknownCritical) (b : Bytes) :
    Except CertificateError Certificate := do
  let (signed, content, algorithm, signature) ← frame b
  let rest ← checkVersion content
  let (serial, rest) ← present (Der.expect? Der.integer rest)
  let (inner, rest) ← present (Der.expect? Der.sequence rest)
  if inner ≠ algorithm then .error (.rule .signatureAlgorithmMismatch)
  let (issuer, rest) ← present (Der.expect? Der.sequence rest)
  let (validity, rest) ← present (Der.expect? Der.sequence rest)
  let (subject, rest) ← present (Der.expect? Der.sequence rest)
  let (publicKey, rest) ← present (Der.expect? Der.sequence rest)
  let extensions ← extensionsOf unknown rest
  return ⟨b, signed, algorithm, signature, serial, issuer, validity, subject, publicKey,
    extensions⟩

/-! ### Trust anchors -/

/-- **What is kept of a trusted certificate**: whose it is, the key, and which names may stand
below it. -/
structure TrustAnchor where
  subject : Bytes
  publicKey : Bytes
  nameConstraints : Option Bytes
deriving DecidableEq, Repr

namespace TrustAnchor

/-- A certificate of version 1, which has neither a version nor extensions. -/
def ofVersion1? (b : Bytes) : Option TrustAnchor := do
  let body ← Der.only? Der.sequence b
  let (content, rest) ← Der.expect? Der.sequence body
  let (_, rest) ← Der.expect? Der.sequence rest
  let _ ← Der.only? Der.bitString rest
  let (_, content) ← Der.expect? Der.integer content
  let (_, content) ← Der.expect? Der.sequence content
  let (_, content) ← Der.expect? Der.sequence content
  let (_, content) ← Der.expect? Der.sequence content
  let (subject, content) ← Der.expect? Der.sequence content
  let publicKey ← Der.only? Der.sequence content
  return ⟨subject, publicKey, none⟩

/-- **The trust anchor of a certificate.** -/
def ofBytes (b : Bytes) : Except CertificateError TrustAnchor :=
  match Certificate.read .ignore b with
  | .ok c => .ok ⟨c.subject, c.publicKey, c.extensions.nameConstraints⟩
  | .error (.rule .unsupportedCertVersion) =>
    match ofVersion1? b with
    | some anchor => .ok anchor
    | none => defective .malformed
  | .error e => .error e

end TrustAnchor

end SecureStream.X509
