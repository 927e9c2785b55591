/-! # Code points of the TLS protocol

Alerts, record types and handshake message types, each a number with a registered name. -/

namespace SecureStream.Tls

/-- An alert: why a peer gives up, or that it closes. -/
structure Alert where
  code : Nat
deriving DecidableEq, Repr

namespace Alert

/-- The registered name of a code. -/
def nameOf? : Nat → Option String
  | 0 => "CloseNotify"
  | 10 => "UnexpectedMessage"
  | 20 => "BadRecordMac"
  | 21 => "DecryptionFailed"
  | 22 => "RecordOverflow"
  | 30 => "DecompressionFailure"
  | 40 => "HandshakeFailure"
  | 41 => "NoCertificate"
  | 42 => "BadCertificate"
  | 43 => "UnsupportedCertificate"
  | 44 => "CertificateRevoked"
  | 45 => "CertificateExpired"
  | 46 => "CertificateUnknown"
  | 47 => "IllegalParameter"
  | 48 => "UnknownCA"
  | 49 => "AccessDenied"
  | 50 => "DecodeError"
  | 51 => "DecryptError"
  | 60 => "ExportRestriction"
  | 70 => "ProtocolVersion"
  | 71 => "InsufficientSecurity"
  | 80 => "InternalError"
  | 86 => "InappropriateFallback"
  | 90 => "UserCanceled"
  | 100 => "NoRenegotiation"
  | 109 => "MissingExtension"
  | 110 => "UnsupportedExtension"
  | 111 => "CertificateUnobtainable"
  | 112 => "UnrecognisedName"
  | 113 => "BadCertificateStatusResponse"
  | 114 => "BadCertificateHashValue"
  | 115 => "UnknownPSKIdentity"
  | 116 => "CertificateRequired"
  | 120 => "NoApplicationProtocol"
  | 121 => "EncryptedClientHelloRequired"
  | _ => none

/-- The name, or the code in hexadecimal where none is registered. -/
def name (x : Alert) : String :=
  match nameOf? x.code with
  | some n => n
  | none => "AlertDescription(0x" ++ String.ofList (Nat.toDigits 16 x.code) ++ ")"

/-- Code 0, `CloseNotify`. -/
def closeNotify : Alert := ⟨0⟩

/-- Code 10, `UnexpectedMessage`. -/
def unexpectedMessage : Alert := ⟨10⟩

/-- Code 20, `BadRecordMac`. -/
def badRecordMac : Alert := ⟨20⟩

/-- Code 22, `RecordOverflow`. -/
def recordOverflow : Alert := ⟨22⟩

/-- Code 40, `HandshakeFailure`. -/
def handshakeFailure : Alert := ⟨40⟩

/-- Code 42, `BadCertificate`. -/
def badCertificate : Alert := ⟨42⟩

/-- Code 43, `UnsupportedCertificate`. -/
def unsupportedCertificate : Alert := ⟨43⟩

/-- Code 45, `CertificateExpired`. -/
def certificateExpired : Alert := ⟨45⟩

/-- Code 46, `CertificateUnknown`. -/
def certificateUnknown : Alert := ⟨46⟩

/-- Code 47, `IllegalParameter`. -/
def illegalParameter : Alert := ⟨47⟩

/-- Code 48, `UnknownCA`. -/
def unknownCA : Alert := ⟨48⟩

/-- Code 49, `AccessDenied`. -/
def accessDenied : Alert := ⟨49⟩

/-- Code 50, `DecodeError`. -/
def decodeError : Alert := ⟨50⟩

/-- Code 51, `DecryptError`. -/
def decryptError : Alert := ⟨51⟩

/-- Code 70, `ProtocolVersion`. -/
def protocolVersion : Alert := ⟨70⟩

/-- Code 80, `InternalError`. -/
def internalError : Alert := ⟨80⟩

/-- Code 90, `UserCanceled`. -/
def userCanceled : Alert := ⟨90⟩

/-- Code 109, `MissingExtension`. -/
def missingExtension : Alert := ⟨109⟩

/-- Code 110, `UnsupportedExtension`. -/
def unsupportedExtension : Alert := ⟨110⟩

/-- Code 116, `CertificateRequired`. -/
def certificateRequired : Alert := ⟨116⟩

/-- Code 120, `NoApplicationProtocol`. -/
def noApplicationProtocol : Alert := ⟨120⟩

end Alert

/-- What a record carries. -/
structure RecordType where
  code : Nat
deriving DecidableEq, Repr

namespace RecordType

/-- The registered name of a code. -/
def nameOf? : Nat → Option String
  | 20 => "ChangeCipherSpec"
  | 21 => "Alert"
  | 22 => "Handshake"
  | 23 => "ApplicationData"
  | 24 => "Heartbeat"
  | _ => none

/-- The name, or the code in hexadecimal where none is registered. -/
def name (x : RecordType) : String :=
  match nameOf? x.code with
  | some n => n
  | none => "ContentType(0x" ++ String.ofList (Nat.toDigits 16 x.code) ++ ")"

/-- Code 20, `ChangeCipherSpec`. -/
def changeCipherSpec : RecordType := ⟨20⟩

/-- Code 21, `Alert`. -/
def alert : RecordType := ⟨21⟩

/-- Code 22, `Handshake`. -/
def handshake : RecordType := ⟨22⟩

/-- Code 23, `ApplicationData`. -/
def applicationData : RecordType := ⟨23⟩

end RecordType

/-- The type of a handshake message. -/
structure HandshakeType where
  code : Nat
deriving DecidableEq, Repr

namespace HandshakeType

/-- The registered name of a code. -/
def nameOf? : Nat → Option String
  | 0 => "HelloRequest"
  | 1 => "ClientHello"
  | 2 => "ServerHello"
  | 3 => "HelloVerifyRequest"
  | 4 => "NewSessionTicket"
  | 5 => "EndOfEarlyData"
  | 6 => "HelloRetryRequest"
  | 8 => "EncryptedExtensions"
  | 11 => "Certificate"
  | 12 => "ServerKeyExchange"
  | 13 => "CertificateRequest"
  | 14 => "ServerHelloDone"
  | 15 => "CertificateVerify"
  | 16 => "ClientKeyExchange"
  | 20 => "Finished"
  | 21 => "CertificateURL"
  | 22 => "CertificateStatus"
  | 24 => "KeyUpdate"
  | 25 => "CompressedCertificate"
  | 254 => "MessageHash"
  | _ => none

/-- The name, or the code in hexadecimal where none is registered. -/
def name (x : HandshakeType) : String :=
  match nameOf? x.code with
  | some n => n
  | none => "HandshakeType(0x" ++ String.ofList (Nat.toDigits 16 x.code) ++ ")"

/-- Code 0, `HelloRequest`. -/
def helloRequest : HandshakeType := ⟨0⟩

/-- Code 1, `ClientHello`. -/
def clientHello : HandshakeType := ⟨1⟩

/-- Code 2, `ServerHello`. -/
def serverHello : HandshakeType := ⟨2⟩

/-- Code 4, `NewSessionTicket`. -/
def newSessionTicket : HandshakeType := ⟨4⟩

/-- Code 5, `EndOfEarlyData`. -/
def endOfEarlyData : HandshakeType := ⟨5⟩

/-- Code 6, `HelloRetryRequest`. -/
def helloRetryRequest : HandshakeType := ⟨6⟩

/-- Code 8, `EncryptedExtensions`. -/
def encryptedExtensions : HandshakeType := ⟨8⟩

/-- Code 11, `Certificate`. -/
def certificate : HandshakeType := ⟨11⟩

/-- Code 12, `ServerKeyExchange`. -/
def serverKeyExchange : HandshakeType := ⟨12⟩

/-- Code 13, `CertificateRequest`. -/
def certificateRequest : HandshakeType := ⟨13⟩

/-- Code 14, `ServerHelloDone`. -/
def serverHelloDone : HandshakeType := ⟨14⟩

/-- Code 15, `CertificateVerify`. -/
def certificateVerify : HandshakeType := ⟨15⟩

/-- Code 16, `ClientKeyExchange`. -/
def clientKeyExchange : HandshakeType := ⟨16⟩

/-- Code 20, `Finished`. -/
def finished : HandshakeType := ⟨20⟩

/-- Code 22, `CertificateStatus`. -/
def certificateStatus : HandshakeType := ⟨22⟩

/-- Code 24, `KeyUpdate`. -/
def keyUpdate : HandshakeType := ⟨24⟩

/-- Code 25, `CompressedCertificate`. -/
def compressedCertificate : HandshakeType := ⟨25⟩

/-- Code 254, `MessageHash`. -/
def messageHash : HandshakeType := ⟨254⟩

end HandshakeType

end SecureStream.Tls
