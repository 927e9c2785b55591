import SecureStream.StreamFault
import SecureStream.Bytes

/-! # The streams beneath a session

A session reads from and writes to a byte stream. The errors of the stream are brought to two kinds
where they ask for another try or tell that the peer is gone, with the error itself beneath. -/

namespace SecureStream

/-- **A byte stream over an environment.** A read of nothing is the end of the stream; a write may
take only a part of what it is offered. -/
structure ByteStream (ε : Type) where
  read : (limit : Nat) → ε → Except IoError Bytes × ε
  write : Bytes → ε → Except IoError Nat × ε

namespace IoError

/-- **An error as the session sees it.** -/
def normalised (e : IoError) (d : Direction) : IoError :=
  match SocketSignal.ofKind e.kind d with
  | .wantRead | .wantWrite => .wrapped .wouldBlock e
  | .connectionReset => .wrapped .connectionReset e
  | .sendFailed | .recvFailed => e

end IoError

/-- A stream whose errors are brought to the kinds that the session tells apart. -/
def ByteStream.normalised {ε : Type} (io : ByteStream ε) : ByteStream ε where
  read limit e :=
    match io.read limit e with
    | (r, e) => (r.mapError (·.normalised .recv), e)
  write b e :=
    match io.write b e with
    | (r, e) => (r.mapError (·.normalised .send), e)

end SecureStream
