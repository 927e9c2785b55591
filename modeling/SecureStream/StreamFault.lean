import SecureStream.IoError.Basic
import SecureStream.Tls.Error

/-! # Faults of a TLS stream

What a TLS session or the socket beneath it reports. A fault is either a request to try again or
final; `ofIoError` reads a socket error in the light of the direction it came from; `diagnostics`
names the failing layer and the concrete cause. -/

namespace SecureStream

/-- The way bytes were going when a socket call failed. -/
inductive Direction
  | send
  | recv
deriving DecidableEq, Repr

/-- **What a TLS session or its socket reports.** -/
inductive StreamFault
  /-- The session needs more bytes from the socket. -/
  | wantRead
  /-- The session has bytes that the socket does not take yet. -/
  | wantWrite
  /-- The handshake used up its budget. -/
  | timeout
  /-- The peer reset or aborted the connection. -/
  | connectionReset (cause : IoError)
  | sendFailed (cause : IoError)
  | recvFailed (cause : IoError)
  /-- The peer sent its close-notify. -/
  | peerClosed
  /-- The socket ended without a close-notify. -/
  | unexpectedEof
  | tls (cause : TlsError)
deriving DecidableEq, Repr

/-- What to do about a fault. -/
inductive Disposition
  | retry
  | fatal
deriving DecidableEq, Repr

/-- What the kind of a socket error means to a TLS session. -/
inductive SocketSignal
  | wantRead
  | wantWrite
  | connectionReset
  | sendFailed
  | recvFailed
deriving DecidableEq, Repr

/-- A socket that is not ready: the call may be repeated. -/
def IoError.Kind.isNotReady : IoError.Kind → Bool
  | wouldBlock | interrupted | timedOut => true
  | _ => false

/-- The peer is gone. -/
def IoError.Kind.isPeerGone : IoError.Kind → Bool
  | connectionReset | brokenPipe | connectionAborted => true
  | _ => false

/-- **The meaning of a socket error's kind.** -/
def SocketSignal.ofKind (k : IoError.Kind) : Direction → SocketSignal
  | .recv =>
    if k.isNotReady then wantRead else if k.isPeerGone then connectionReset else recvFailed
  | .send =>
    if k.isNotReady then wantWrite else if k.isPeerGone then connectionReset else sendFailed

namespace StreamFault

/-- Whether a fault asks for another try or is final. -/
def disposition : StreamFault → Disposition
  | wantRead | wantWrite | timeout => .retry
  | _ => .fatal

/-- Whether the call may simply be repeated. -/
def isRetryable (f : StreamFault) : Bool := f.disposition == .retry

/-- **The fault that a socket error stands for.** -/
def ofIoError (e : IoError) (d : Direction) : StreamFault :=
  match SocketSignal.ofKind e.kind d with
  | .wantRead => wantRead
  | .wantWrite => wantWrite
  | .connectionReset => connectionReset e
  | .sendFailed => sendFailed e
  | .recvFailed => if e.kind = .unexpectedEof then unexpectedEof else recvFailed e

/-- The text of a fault. -/
def message : StreamFault → String
  | wantRead => "engine wants to read"
  | wantWrite => "engine wants to write"
  | timeout => "handshake timed out"
  | connectionReset e => "connection reset by peer: " ++ e.message
  | sendFailed e => "socket send failed: " ++ e.message
  | recvFailed e => "socket receive failed: " ++ e.message
  | peerClosed => "peer closed the TLS session"
  | unexpectedEof => "unexpected end of stream"
  | tls e => "TLS error: " ++ e.message

/-- The text of the error beneath a fault, if there is one. -/
def causeMessage? : StreamFault → Option String
  | connectionReset e | sendFailed e | recvFailed e => e.message
  | tls e => e.message
  | _ => none

/-- Stands for a layer that the diagnostics do not name. -/
def noLayer : String := "<No-High-Level-Code>"

/-- **The failing layer and the concrete cause.** -/
def diagnostics : StreamFault → String × String
  | tls e => (e.layer?.getD noLayer, e.inspect)
  | connectionReset e | sendFailed e | recvFailed e => (noLayer, e.detail)
  | wantRead => (noLayer, "want_read")
  | wantWrite => (noLayer, "want_write")
  | timeout => (noLayer, "timeout")
  | peerClosed => (noLayer, "close_notify")
  | unexpectedEof => (noLayer, "eof")

end StreamFault

end SecureStream
