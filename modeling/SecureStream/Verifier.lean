import SecureStream.Provider
import SecureStream.X509.Path
import SecureStream.X509.Subject

/-! # Verifying a server

A verifier judges the certificates that a server presents. The strict one wants a path to a root
and the server's name; the lenient one forgives the name; the third accepts everything. All three
support the signature schemes of the algorithms they were made with. -/

namespace SecureStream

open Tls (CertificateError)
open X509 (TrustAnchor)

/-- The certificates that a server presents, its own first, with the name and the moment that they
are judged for. -/
structure Presented where
  endEntity : Bytes
  intermediates : List Bytes
  server : ServerName
  now : Nat

/-- How strict a verifier is. -/
inductive Strictness
  | strict
  /-- A certificate for another name is accepted. -/
  | anyName
  | anything
deriving DecidableEq, Repr

/-- **A verifier.** -/
structure Verifier where
  strictness : Strictness
  roots : List TrustAnchor
  signatures : Signature.Table
deriving DecidableEq

namespace Verifier

/-- **The strict judgement**: a path to one of the roots by the given algorithms, then the name. -/
def judgeStrictly (roots : List TrustAnchor) (algorithms : List Signature.Algorithm)
    (p : Presented) : Except CertificateError Unit := do
  let certificate ← X509.Certificate.read .refuse p.endEntity
  X509.Path.verify
    { algorithms, anchors := roots, intermediates := p.intermediates, purpose := .serverAuth,
      now := p.now } certificate
  X509.Subject.check certificate p.server

/-- Whether an error is about the name alone. -/
def isAboutName : CertificateError → Bool
  | .notValidForName .. => true
  | .named name => name == "NotValidForName"
  | _ => false

/-- Forgives an error that is about the name alone. -/
def forgiveName (r : Except CertificateError Unit) : Except CertificateError Unit :=
  match r with
  | .error e => if isAboutName e then .ok () else .error e
  | .ok () => .ok ()

/-- **The judgement of a verifier.** -/
def judge (v : Verifier) (p : Presented) : Except CertificateError Unit :=
  match v.strictness with
  | .strict => judgeStrictly v.roots v.signatures.algorithms p
  | .anyName => forgiveName (judgeStrictly v.roots v.signatures.algorithms p)
  | .anything => .ok ()

/-- **The judgement of a signature in the handshake** by the key of a certificate. -/
def judgeSignature (v : Verifier) (certificate : Bytes) (scheme : Nat) (message signature : Bytes) :
    Except TlsError Unit :=
  match v.signatures.schemes.find? fun s => s.1.code == scheme with
  | none => .error (.peerMisbehaved "SignedHandshakeWithUnadvertisedSigScheme")
  | some (_, algorithms) =>
    Except.mapError .invalidCertificate do
      let c ← X509.Certificate.read .refuse certificate
      X509.Path.checkMessage algorithms c.publicKey message signature

/-- The schemes that a verifier supports. -/
def supportedSchemes (v : Verifier) : List Signature.Scheme := v.signatures.supportedSchemes

end Verifier

end SecureStream
