import SecureStream.Name.ServerName
import SecureStream.Text.Quoted
import SecureStream.Bytes
import SecureStream.Tls.Code

/-! # Why a certificate is rejected

`message` is the text for a reader and `inspect` the listing of the cause with its parts. -/

namespace SecureStream.Tls

/-- The entries of a listing between brackets. -/
def bracketed (entries : List String) : String := "[" ++ ", ".intercalate entries ++ "]"

/-- What a certificate may be used for. -/
inductive KeyPurpose
  | serverAuth
  | clientAuth
  /-- An object identifier by its arcs. -/
  | other (arcs : List Nat)
deriving DecidableEq, Repr

namespace KeyPurpose

/-- A purpose in words. -/
def message : KeyPurpose → String
  | serverAuth => "server authentication"
  | clientAuth => "client authentication"
  | other arcs => ", ".intercalate (arcs.map toString)

/-- A purpose in a listing. -/
def inspect : KeyPurpose → String
  | serverAuth => "ServerAuth"
  | clientAuth => "ClientAuth"
  | other arcs => "Other(" ++ bracketed (arcs.map toString) ++ ")"

end KeyPurpose

/-- A rule of the path validation that has no error of its own in the protocol. -/
inductive PathRule
  | caUsedAsEndEntity
  | certDistrusted
  | endEntityUsedAsCa
  | emptyKeyPurposes
  | extensionValueInvalid
  | malformedExtensions
  | invalidSerialNumber
  | maximumNameConstraintComparisonsExceeded
  | maximumPathBuildCallsExceeded
  | maximumPathDepthExceeded
  | maximumSignatureChecksExceeded
  | nameConstraintViolation
  | pathLenConstraintViolated
  | signatureAlgorithmMismatch
  | unsupportedCertVersion
  | unsupportedCriticalExtension
  | unsupportedNameType
  | malformedDnsIdentifier
  | malformedNameConstraint
  | malformedIpAddress
deriving DecidableEq, Repr

/-- The name of a rule. -/
def PathRule.name : PathRule → String
  | caUsedAsEndEntity => "CaUsedAsEndEntity"
  | certDistrusted => "CertDistrusted"
  | endEntityUsedAsCa => "EndEntityUsedAsCa"
  | emptyKeyPurposes => "EmptyEkuExtension"
  | extensionValueInvalid => "ExtensionValueInvalid"
  | malformedExtensions => "MalformedExtensions"
  | invalidSerialNumber => "InvalidSerialNumber"
  | maximumNameConstraintComparisonsExceeded => "MaximumNameConstraintComparisonsExceeded"
  | maximumPathBuildCallsExceeded => "MaximumPathBuildCallsExceeded"
  | maximumPathDepthExceeded => "MaximumPathDepthExceeded"
  | maximumSignatureChecksExceeded => "MaximumSignatureChecksExceeded"
  | nameConstraintViolation => "NameConstraintViolation"
  | pathLenConstraintViolated => "PathLenConstraintViolated"
  | signatureAlgorithmMismatch => "SignatureAlgorithmMismatch"
  | unsupportedCertVersion => "UnsupportedCertVersion"
  | unsupportedCriticalExtension => "UnsupportedCriticalExtension"
  | unsupportedNameType => "UnsupportedNameType"
  | malformedDnsIdentifier => "MalformedDnsIdentifier"
  | malformedNameConstraint => "MalformedNameConstraint"
  | malformedIpAddress => "InvalidNetworkMaskConstraint"

/-- What is wrong with an encoding. The texts do not tell it; it decides which of several errors is
reported. -/
inductive EncodingDefect
  | malformed
  /-- A moment is not written as one. -/
  | time
  /-- A part is not where it is expected, or more follows than should. -/
  | framing
deriving DecidableEq, Repr

/-- **Why a certificate is rejected.** -/
inductive CertificateError
  | badEncoding (defect : EncodingDefect)
  | badSignature
  | unknownIssuer
  /-- The moment of verification is after the end of validity; both in seconds of the epoch. -/
  | expired (time notAfter : Nat)
  /-- The moment of verification is before the start of validity. -/
  | notValidYet (time notBefore : Nat)
  /-- The certificate names others: those it presents, as listed. -/
  | notValidForName (expected : ServerName) (presented : List String)
  | invalidPurpose (required : KeyPurpose) (presented : List KeyPurpose)
  /-- No known algorithm has this signature identifier. -/
  | unsupportedSignatureAlgorithm (signature : Bytes) (supported : List Bytes)
  /-- The signature identifier is known, but not with this public key. -/
  | unsupportedSignatureAlgorithmForPublicKey (signature publicKey : Bytes)
  | rule (rule : PathRule)
  /-- A cause without parts, by its name. -/
  | named (name : String)
deriving DecidableEq, Repr

namespace CertificateError

/-- The name of a server in a listing. -/
def inspectName : ServerName → String
  | .dns name => "DnsName(" ++ Text.quote name ++ ")"
  | .address a => "IpAddress(" ++ a.inspect ++ ")"

/-- Octets in a listing. -/
def inspectOctets (b : Bytes) : String := bracketed (b.map fun x => toString x.toNat)

/-- An algorithm identifier in a listing. -/
def inspectIdentifier (b : Bytes) : String := "0x" ++ Bytes.toHex b

/-- A cause with its parts, each in a listing. -/
def listing (name : String) (parts : List (String × String)) : String :=
  name ++ " \x7b " ++ ", ".intercalate (parts.map fun p => p.1 ++ ": " ++ p.2) ++ " \x7d"

/-- **The listing of a cause.** -/
def inspect : CertificateError → String
  | badEncoding _ => "BadEncoding"
  | badSignature => "BadSignature"
  | unknownIssuer => "UnknownIssuer"
  | expired time notAfter =>
    listing "ExpiredContext" [("time", "UnixTime(" ++ toString time ++ ")"),
      ("not_after", "UnixTime(" ++ toString notAfter ++ ")")]
  | notValidYet time notBefore =>
    listing "NotValidYetContext" [("time", "UnixTime(" ++ toString time ++ ")"),
      ("not_before", "UnixTime(" ++ toString notBefore ++ ")")]
  | notValidForName expected presented =>
    listing "NotValidForNameContext" [("expected", inspectName expected),
      ("presented", bracketed (presented.map Text.quote))]
  | invalidPurpose required presented =>
    listing "InvalidPurposeContext" [("required", required.inspect),
      ("presented", bracketed (presented.map KeyPurpose.inspect))]
  | unsupportedSignatureAlgorithm signature supported =>
    listing "UnsupportedSignatureAlgorithmContext"
      [("signature_algorithm_id", inspectOctets signature),
        ("supported_algorithms", bracketed (supported.map inspectIdentifier))]
  | unsupportedSignatureAlgorithmForPublicKey signature publicKey =>
    listing "UnsupportedSignatureAlgorithmForPublicKeyContext"
      [("signature_algorithm_id", inspectOctets signature),
        ("public_key_algorithm_id", inspectOctets publicKey)]
  | rule r => "Other(OtherError(" ++ r.name ++ "))"
  | named name => name

/-- The names that a certificate is good for, in words. -/
def renderPresented : List String → String
  | [] => "is not valid for any names (according to its subjectAltName extension)"
  | [one] => "is only valid for " ++ one
  | many =>
    "is only valid for " ++ ", ".intercalate many.dropLast ++ " or " ++ many.getLast?.getD ""

/-- **The text of a cause.** -/
def message : CertificateError → String
  | expired time notAfter =>
    "certificate expired: verification time " ++ toString time ++
      " (UNIX), but certificate is not valid after " ++ toString notAfter ++
      " (" ++ toString (time - notAfter) ++ " seconds ago)"
  | notValidYet time notBefore =>
    "certificate not valid yet: verification time " ++ toString time ++
      " (UNIX), but certificate is not valid before " ++ toString notBefore ++
      " (" ++ toString (notBefore - time) ++ " seconds in future)"
  | notValidForName expected presented =>
    "certificate not valid for name " ++ Text.quote expected.text ++ "; certificate " ++
      renderPresented presented
  | invalidPurpose required presented =>
    "certificate does not allow extended key usage for " ++ required.message ++
      ", allows " ++ ", ".intercalate (presented.map KeyPurpose.message)
  | e => e.inspect

/-- The alert by which a side tells the other why it rejects a certificate. -/
def alert : CertificateError → Alert
  | badEncoding _ | notValidForName .. => .badCertificate
  | expired .. | notValidYet .. => .certificateExpired
  | unknownIssuer => .unknownCA
  | badSignature
  | unsupportedSignatureAlgorithm ..
  | unsupportedSignatureAlgorithmForPublicKey .. => .decryptError
  | invalidPurpose .. => .unsupportedCertificate
  | named name => if name = "Expired" then .certificateExpired else .certificateUnknown
  | rule _ => .certificateUnknown

end CertificateError

end SecureStream.Tls
