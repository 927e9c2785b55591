import SecureStream.StreamFault
import SecureStream.Lifecycle

/-! # Errors of a transport

`status` groups the errors into the outcomes that callers and metrics tell apart, `message` is the
text for a reader, and `sources` the texts of the errors beneath, outermost first. -/

namespace SecureStream

/-- Which credential could not be used, and why. -/
inductive CredentialError
  | rootCa (reason : String)
  | clientCertificate (reason : String)
  | privateKey (reason : String)
deriving DecidableEq, Repr

/-- The text of a credential error. -/
def CredentialError.message : CredentialError → String
  | rootCa reason => "invalid root CA certificate: " ++ reason
  | clientCertificate reason => "invalid client certificate: " ++ reason
  | privateKey reason => "invalid private key: " ++ reason

/-- The outcome of an operation. -/
inductive Status
  | success
  | invalidParameter
  | insufficientMemory
  | invalidCredentials
  | connectFailure
  | handshakeFailed
  | internalError
deriving DecidableEq, Repr

namespace Status

/-- The label of an outcome in logs and metrics. -/
def label : Status → String
  | success => "success"
  | invalidParameter => "invalid_parameter"
  | insufficientMemory => "insufficient_memory"
  | invalidCredentials => "invalid_credentials"
  | connectFailure => "connect_failure"
  | handshakeFailed => "handshake_failed"
  | internalError => "internal_error"

/-- The name of an outcome. -/
def name : Status → String
  | success => "Success"
  | invalidParameter => "InvalidParameter"
  | insufficientMemory => "InsufficientMemory"
  | invalidCredentials => "InvalidCredentials"
  | connectFailure => "ConnectFailure"
  | handshakeFailed => "HandshakeFailed"
  | internalError => "InternalError"

end Status

/-- **What goes wrong with a transport.** -/
inductive TransportError
  /-- An argument is missing or cannot be used. -/
  | invalidParameter (reason : String)
  | insufficientMemory (reason : String)
  | invalidCredentials (cause : CredentialError)
  /-- The socket could not be connected. -/
  | connectFailure (host : String) (port : Nat) (cause : IoError)
  | handshakeFailed (fault : StreamFault)
  | internal (reason : String)
  /-- The operation is not for the state that the transport is in. -/
  | invalidState (expected actual : String)
  /-- Sending or receiving failed for good. -/
  | stream (fault : StreamFault)
deriving DecidableEq, Repr

namespace TransportError

/-- The outcome that an error stands for. -/
def status : TransportError → Status
  | invalidParameter _ | invalidState .. => .invalidParameter
  | insufficientMemory _ => .insufficientMemory
  | invalidCredentials _ => .invalidCredentials
  | connectFailure .. => .connectFailure
  | handshakeFailed _ => .handshakeFailed
  | internal _ | stream _ => .internalError

/-- Whether the transport may be connected again after the error. -/
def isReconnectable : TransportError → Bool
  | stream _ => false
  | _ => true

/-- The text of an error. -/
def message : TransportError → String
  | invalidParameter reason => "invalid parameter: " ++ reason
  | insufficientMemory reason => "insufficient memory: " ++ reason
  | invalidCredentials cause => "invalid credentials: " ++ cause.message
  | connectFailure host port cause =>
    "failed to connect to " ++ host ++ ":" ++ toString port ++ ": " ++ cause.message
  | handshakeFailed fault => "TLS handshake failed: " ++ fault.message
  | internal reason => "internal error: " ++ reason
  | invalidState expected actual => "invalid state: expected " ++ expected ++ ", got " ++ actual
  | stream fault => "transport I/O failed: " ++ fault.message

/-- The texts of the errors beneath, outermost first. -/
def sources : TransportError → List String
  | invalidCredentials cause => [cause.message]
  | connectFailure _ _ cause => [cause.message]
  | handshakeFailed fault | stream fault => fault.message :: fault.causeMessage?.toList
  | _ => []

end TransportError

namespace Status

/-- The outcome of an operation, successful or not. -/
def ofResult {α : Type} : Except TransportError α → Status
  | .ok _ => success
  | .error e => e.status

end Status

namespace Lifecycle

/-- **Changes the state**, if the change is admissible. -/
def transition (s next : Lifecycle) : Except TransportError Lifecycle :=
  if s.mayBecome next then .ok next
  else .error (.invalidState ("valid transition from " ++ s.name) next.name)

end Lifecycle

end SecureStream
