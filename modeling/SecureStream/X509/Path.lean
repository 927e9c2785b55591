import SecureStream.X509.NameConstraints
import SecureStream.X509.PublicKey
import SecureStream.X509.Validity

/-! # Paths to a trust anchor

A path starts at the certificate of a server and goes from each certificate to that of its issuer,
up to a trust anchor. Every certificate on it is valid at the moment of verification and used for
what it is meant for; every signature is good; and the names respect the constraints above them.

* `build`: looks for a path, depth first; of all that went wrong the most telling is reported.
* `verify`: whether there is a path. -/

namespace SecureStream.X509.Path

open Tls (CertificateError KeyPurpose)
open Signature (Algorithm)

/-! ### Limits -/

/-- What a search may still spend. -/
structure Budget where
  signatures : Nat
  steps : Nat
  comparisons : Nat
deriving DecidableEq, Repr

/-- What a search may spend. -/
def Budget.full : Budget := ⟨100, 200000, 250000⟩

/-- The certificates between the server's and the anchor. -/
def maxIntermediates : Nat := 6

/-! ### Which error is reported -/

/-- How telling an error is. -/
def rank : CertificateError → Nat
  | .rule .certDistrusted => 300
  | .notValidYet .. | .expired .. => 290
  | .notValidForName .. => 280
  | .badSignature => 260
  | .rule .signatureAlgorithmMismatch => 250
  | .rule .emptyKeyPurposes => 245
  | .invalidPurpose .. => 240
  | .rule .nameConstraintViolation => 230
  | .rule .pathLenConstraintViolated => 220
  | .rule .caUsedAsEndEntity | .rule .endEntityUsedAsCa => 210
  | .named _ => 190
  | .rule .malformedIpAddress => 180
  | .rule .invalidSerialNumber => 170
  | .unsupportedSignatureAlgorithmForPublicKey .. => 150
  | .unsupportedSignatureAlgorithm .. => 140
  | .rule .unsupportedCriticalExtension | .rule .unsupportedCertVersion => 130
  | .rule .unsupportedNameType => 95
  | .rule .maximumPathDepthExceeded => 61
  | .rule .malformedDnsIdentifier => 60
  | .rule .malformedNameConstraint => 50
  | .rule .malformedExtensions | .badEncoding .framing => 40
  | .rule .extensionValueInvalid => 30
  | .badEncoding .time => 20
  | .badEncoding .malformed => 10
  | .unknownIssuer
  | .rule .maximumPathBuildCallsExceeded | .rule .maximumSignatureChecksExceeded
  | .rule .maximumNameConstraintComparisonsExceeded => 0

/-- The more telling of two errors, the first if neither is. -/
def moreTelling (e f : CertificateError) : CertificateError := if rank f ≤ rank e then e else f

/-- Whether an error ends the search. -/
def isFatal : CertificateError → Bool
  | .rule .maximumPathBuildCallsExceeded | .rule .maximumSignatureChecksExceeded
  | .rule .maximumNameConstraintComparisonsExceeded => true
  | _ => false

/-! ### One certificate -/

/-- What a certificate is on a path. -/
inductive Role
  | endEntity
  /-- An issuer, with the number of issuers below it. -/
  | issuer (below : Nat)
deriving DecidableEq, Repr

/-- What the basic constraints say: whether the subject may issue, the limit of issuers below it,
and what follows, which should be nothing. -/
def basicConstraints (b : Option Bytes) :
    Except CertificateError (Bool × Option Nat × Bytes) :=
  match b with
  | none => .ok (false, none, [])
  | some b =>
    match flag b with
    | .error e => .error e
    | .ok (issues, []) => .ok (issues, none, [])
    | .ok (issues, rest) =>
      match Der.expect? Der.integer rest with
      | none => defective .malformed
      | some (content, rest) =>
        match Der.natural? content with
        | some [limit] => .ok (issues, some limit.toNat, rest)
        | _ => defective .malformed

/-- Whether a certificate may play its role. -/
def checkRole (c : Certificate) (role : Role) : Except CertificateError Unit :=
  match basicConstraints c.extensions.basicConstraints with
  | .error e => .error e
  | .ok (issues, limit, excess) =>
    match role with
    | .endEntity =>
      if issues then .error (.rule .caUsedAsEndEntity) else exhausted excess
    | .issuer below =>
      if !issues then .error (.rule .endEntityUsedAsCa)
      else if limit.any (· < below) then .error (.rule .pathLenConstraintViolated)
      else exhausted excess

/-- The numbers of an identifier as they are listed: each octet but the last of a number has its top
bit set, and moves what came before by a whole octet, within 64 bits. -/
def arcs (current : UInt64) : Bytes → List Nat
  | [] => []
  | b :: rest =>
    let number := current * 256 + (b &&& 0x7f).toUInt64
    if b < 0x80 then number.toNat :: arcs 0 rest else arcs number rest

/-- The arcs of an object identifier; the first number holds two of them. -/
def identifierArcs (b : Bytes) : List Nat :=
  match arcs 0 b with
  | [] => []
  | n :: rest => (if n < 80 then [n / 40, n % 40] else [2, n - 80]) ++ rest

/-- The purpose of an object identifier. -/
def purposeOf (b : Bytes) : KeyPurpose :=
  match identifierArcs b with
  | [1, 3, 6, 1, 5, 5, 7, 3, 1] => .serverAuth
  | [1, 3, 6, 1, 5, 5, 7, 3, 2] => .clientAuth
  | arcs => .other arcs

/-- The object identifier of a purpose that can be required. -/
def identifierOf : KeyPurpose → Option Bytes
  | .serverAuth => some [0x2b, 0x06, 0x01, 0x05, 0x05, 0x07, 0x03, 0x01]
  | .clientAuth => some [0x2b, 0x06, 0x01, 0x05, 0x05, 0x07, 0x03, 0x02]
  | .other _ => none

/-- Whether a purpose is among those of a list. -/
def hasPurpose (required : KeyPurpose) (seen : List KeyPurpose) (b : Bytes) :
    Except CertificateError Unit :=
  if b.isEmpty then .error (.invalidPurpose required seen)
  else match _h : Der.expect? Der.objectIdentifier b with
    | none => defective .malformed
    | some (content, rest) =>
      if identifierOf required = some content then .ok ()
      else hasPurpose required (seen ++ [purposeOf content]) rest
termination_by b.length
decreasing_by exact Der.length_expect? (by assumption)

/-- Whether a certificate may be used for a purpose; one that names none may be used for all. -/
def checkPurpose (c : Certificate) (required : KeyPurpose) : Except CertificateError Unit :=
  match c.extensions.extendedKeyUsage with
  | none => .ok ()
  | some [] => .error (.rule .emptyKeyPurposes)
  | some b => hasPurpose required [] b

/-! ### Signatures -/

/-- **Whether the signature of a message is good** by the algorithm that goes with the key. Where
none does, the error names the last of them. -/
def checkMessage (algorithms : List Algorithm) (publicKey message signature : Bytes) :
    Except CertificateError Unit := do
  let key ← PublicKey.read publicKey
  match algorithms.find? fun a => a.publicKey == key.algorithm, algorithms.getLast? with
  | some a, _ => if a.check.verify key.key message signature then .ok () else .error .badSignature
  | none, some a => .error (.unsupportedSignatureAlgorithmForPublicKey a.signature key.algorithm)
  | none, none => .error (.unsupportedSignatureAlgorithm [] [])

/-- **Whether the signature of a certificate is good** by the issuer's key. -/
def checkSignature (algorithms : List Algorithm) (issuerKey : Bytes) (c : Certificate) :
    Except CertificateError Unit :=
  match algorithms.filter fun a => a.signature == c.algorithm with
  | [] => .error (.unsupportedSignatureAlgorithm c.algorithm (algorithms.map Algorithm.signature))
  | candidates => checkMessage candidates issuerKey c.signed c.signature

/-- Checks the signatures along a path, from the anchor's key down. -/
def checkSignatures (algorithms : List Algorithm) (key : Bytes) :
    List Certificate → Nat → Except CertificateError Unit × Nat
  | [], left => (.ok (), left)
  | _ :: _, 0 => (.error (.rule .maximumSignatureChecksExceeded), 0)
  | c :: below, left + 1 =>
    match checkSignature algorithms key c with
    | .error e => (.error e, left)
    | .ok () => checkSignatures algorithms c.publicKey below left

/-- Checks the names along a path by the constraints above them. -/
def checkNames (constraint : Option Bytes) :
    List Certificate → Nat → Except CertificateError Unit × Nat
  | [], left => (.ok (), left)
  | c :: below, left =>
    match NameConstraints.check constraint (c :: below) left with
    | (.ok (), left) => checkNames c.extensions.nameConstraints below left
    | r => r

/-! ### Search -/

/-- What a search is about. -/
structure Question where
  algorithms : List Algorithm
  anchors : List TrustAnchor
  intermediates : List Bytes
  purpose : KeyPurpose
  now : Nat

/-- The outcome of a search, with what it may still spend. -/
abbrev Outcome := Except CertificateError TrustAnchor × Budget

/-- Tries candidates in turn up to the first that leads to an anchor. -/
def firstGood {α : Type} (attempt : α → Budget → Outcome) :
    CertificateError → List α → Budget → Outcome
  | error, [], budget => (.error error, budget)
  | error, a :: rest, budget =>
    match attempt a budget with
    | (.ok anchor, budget) => (.ok anchor, budget)
    | (.error e, budget) =>
      if isFatal e then (.error e, budget)
      else firstGood attempt (moreTelling error e) rest budget

/-- Whether a path ends at an anchor. -/
def endsAt (q : Question) (head : Certificate) (below : List Certificate) (anchor : TrustAnchor)
    (budget : Budget) : Outcome :=
  if head.issuer ≠ anchor.subject then (.error .unknownIssuer, budget)
  else
    match checkSignatures q.algorithms anchor.publicKey (head :: below) budget.signatures with
    | (.error e, left) => (.error e, { budget with signatures := left })
    | (.ok (), left) =>
      let budget := { budget with signatures := left }
      match checkNames anchor.nameConstraints (head :: below) budget.comparisons with
      | (r, left) => (r.map fun _ => anchor, { budget with comparisons := left })

/-- Goes on from the head of a path to a candidate for its issuer. -/
def extend (next : Certificate → List Certificate → Budget → Outcome)
    (head : Certificate) (below : List Certificate) (candidate : Bytes) (budget : Budget) :
    Outcome :=
  match Certificate.read .refuse candidate with
  | .error e => (.error e, budget)
  | .ok issuer =>
    if issuer.subject ≠ head.issuer then (.error .unknownIssuer, budget)
    else if (head :: below).any fun c =>
        c.publicKey == issuer.publicKey && c.subject == issuer.subject then
      (.error .unknownIssuer, budget)
    else match budget.steps with
      | 0 => (.error (.rule .maximumPathBuildCallsExceeded), budget)
      | steps + 1 => next issuer (head :: below) { budget with steps := steps }

/-- What a certificate has to satisfy whoever issued it. -/
def checkAlone (q : Question) (head : Certificate) (below : List Certificate) :
    Except CertificateError Unit := do
  if Distrust.isDistrusted head.publicKey then .error (.rule .certDistrusted)
  Validity.check head.validity q.now
  checkRole head (if below.isEmpty then .endEntity else .issuer (below.length - 1))
  checkPurpose head q.purpose

/-- One level of the search: the head of a path, then the anchors, then the candidates for the
issuer. -/
def level (q : Question) (next : Certificate → List Certificate → Budget → Outcome)
    (head : Certificate) (below : List Certificate) (budget : Budget) : Outcome :=
  match checkAlone q head below with
  | .error e => (.error e, budget)
  | .ok () =>
    match firstGood (endsAt q head below) .unknownIssuer q.anchors budget with
    | (.ok anchor, budget) => (.ok anchor, budget)
    | (.error e, budget) =>
      if isFatal e then (.error e, budget)
      else firstGood (extend next head below) e q.intermediates budget

/-- **Looks for an anchor** from the head of a path on, with room for some more certificates. -/
def build (q : Question) : (room : Nat) → Certificate → List Certificate → Budget → Outcome
  | 0 => level q fun _ _ budget => (.error (.rule .maximumPathDepthExceeded), budget)
  | room + 1 => level q (build q room)

/-- **Whether there is a path** from a certificate to an anchor. -/
def verify (q : Question) (c : Certificate) : Except CertificateError Unit :=
  (build q maxIntermediates c [] .full).1.map fun _ => ()

end SecureStream.X509.Path
