import SecureStream.Tls.Code
import SecureStream.Tls.CertificateError

/-! # Failures of the TLS protocol

`message` is the text for a reader, `inspect` the listing of the cause with its parts, and `layer?`
the part of the protocol that failed where the diagnostics name one. -/

namespace SecureStream

namespace Tls

/-- What is wrong with a message that cannot be read. -/
inductive Corruption
  | invalidContentType
  | unknownProtocolVersion
  | messageTooLarge
  | messageTooShort
  | invalidEmptyPayload
  /-- The message ends before a field of this type. -/
  | missingData (field : String)
  /-- Bytes are left after a value of this type. -/
  | trailingData (field : String)
  | illegalEmptyValue
  /-- A list of this type has no entries. -/
  | illegalEmptyList (field : String)
  | duplicateExtension (type : Nat)
  /-- A message of this type may not be sent. -/
  | unexpectedMessage (type : String)
  /-- A defect by its name. -/
  | named (name : String)
deriving DecidableEq, Repr

/-- The listing of a defect. -/
def Corruption.inspect : Corruption → String
  | invalidContentType => "InvalidContentType"
  | unknownProtocolVersion => "UnknownProtocolVersion"
  | messageTooLarge => "MessageTooLarge"
  | messageTooShort => "MessageTooShort"
  | invalidEmptyPayload => "InvalidEmptyPayload"
  | missingData field => "MissingData(" ++ Text.quote field ++ ")"
  | trailingData field => "TrailingData(" ++ Text.quote field ++ ")"
  | illegalEmptyValue => "IllegalEmptyValue"
  | illegalEmptyList field => "IllegalEmptyList(" ++ Text.quote field ++ ")"
  | duplicateExtension type => "DuplicateExtension(" ++ toString type ++ ")"
  | unexpectedMessage type => "UnexpectedMessage(" ++ Text.quote type ++ ")"
  | named name => name

end Tls

/-- **A failure of the TLS protocol.** -/
inductive TlsError
  | inappropriateMessage (expected : List Tls.RecordType) (got : Tls.RecordType)
  | inappropriateHandshakeMessage (expected : List Tls.HandshakeType) (got : Tls.HandshakeType)
  | invalidMessage (defect : Tls.Corruption)
  /-- The peer lacks something that is needed, by its name. -/
  | peerIncompatible (reason : String)
  /-- The peer broke a rule of the protocol, by its name. -/
  | peerMisbehaved (rule : String)
  | alertReceived (alert : Tls.Alert)
  | invalidCertificate (cause : Tls.CertificateError)
  | noCertificatesPresented
  | unsupportedNameType
  | decryptError
  | encryptError
  | peerSentOversizedRecord
  | handshakeNotComplete
  | noApplicationProtocol
  | failedToGetCurrentTime
  | failedToGetRandomBytes
  | badMaxFragmentSize
  /-- A private key does not belong to its certificate. -/
  | keyMismatch
  | general (text : String)
deriving DecidableEq, Repr

namespace TlsError

/-- The listing of a failure. -/
def inspect : TlsError → String
  | inappropriateMessage expected got =>
    Tls.CertificateError.listing "InappropriateMessage"
      [("expect_types", Tls.bracketed (expected.map Tls.RecordType.name)), ("got_type", got.name)]
  | inappropriateHandshakeMessage expected got =>
    Tls.CertificateError.listing "InappropriateHandshakeMessage"
      [("expect_types", Tls.bracketed (expected.map Tls.HandshakeType.name)),
        ("got_type", got.name)]
  | invalidMessage defect => "InvalidMessage(" ++ defect.inspect ++ ")"
  | peerIncompatible reason => "PeerIncompatible(" ++ reason ++ ")"
  | peerMisbehaved rule => "PeerMisbehaved(" ++ rule ++ ")"
  | alertReceived alert => "AlertReceived(" ++ alert.name ++ ")"
  | invalidCertificate cause => "InvalidCertificate(" ++ cause.inspect ++ ")"
  | noCertificatesPresented => "NoCertificatesPresented"
  | unsupportedNameType => "UnsupportedNameType"
  | decryptError => "DecryptError"
  | encryptError => "EncryptError"
  | peerSentOversizedRecord => "PeerSentOversizedRecord"
  | handshakeNotComplete => "HandshakeNotComplete"
  | noApplicationProtocol => "NoApplicationProtocol"
  | failedToGetCurrentTime => "FailedToGetCurrentTime"
  | failedToGetRandomBytes => "FailedToGetRandomBytes"
  | badMaxFragmentSize => "BadMaxFragmentSize"
  | keyMismatch => "InconsistentKeys(KeyMismatch)"
  | general text => "General(" ++ Text.quote text ++ ")"

/-- **The text of a failure.** -/
def message : TlsError → String
  | inappropriateMessage expected got =>
    "received unexpected message: got " ++ got.name ++ " when expecting " ++
      " or ".intercalate (expected.map Tls.RecordType.name)
  | inappropriateHandshakeMessage expected got =>
    "received unexpected handshake message: got " ++ got.name ++ " when expecting " ++
      " or ".intercalate (expected.map Tls.HandshakeType.name)
  | invalidMessage defect => "received corrupt message of type " ++ defect.inspect
  | peerIncompatible reason => "peer is incompatible: " ++ reason
  | peerMisbehaved rule => "peer misbehaved: " ++ rule
  | alertReceived alert => "received fatal alert: " ++ alert.name
  | invalidCertificate cause => "invalid peer certificate: " ++ cause.message
  | noCertificatesPresented => "peer sent no certificates"
  | unsupportedNameType => "presented server name type wasn't supported"
  | decryptError => "cannot decrypt peer's message"
  | encryptError => "cannot encrypt message"
  | peerSentOversizedRecord => "peer sent excess record size"
  | handshakeNotComplete => "handshake not complete"
  | noApplicationProtocol => "peer doesn't support any known protocol"
  | failedToGetCurrentTime => "failed to get current time"
  | failedToGetRandomBytes => "failed to get random bytes"
  | badMaxFragmentSize => "the supplied max_fragment_size was too small or large"
  | keyMismatch => "keys may not be consistent: KeyMismatch"
  | general text => "unexpected error: " ++ text

/-- The layer of the protocol that a failure belongs to, where the diagnostics name one. -/
def layer? : TlsError → Option String
  | invalidCertificate _ => "certificate verification"
  | alertReceived _ => "alert received"
  | peerMisbehaved _ | inappropriateMessage .. => "protocol violation"
  | peerIncompatible _ => "peer incompatible"
  | noCertificatesPresented => "no certificates presented"
  | decryptError => "decrypt"
  | general _ => "general"
  | _ => none

end TlsError

end SecureStream
