/-! # The life of a transport

A transport is allocated, connecting, connected or disconnected. `mayBecome` lists the admissible
changes of state. -/

namespace SecureStream

/-- Where a transport stands. -/
inductive Lifecycle
  /-- The transport exists and has no session: fresh, or after a connect that failed. -/
  | allocated
  /-- The socket is being set up or the handshake runs. -/
  | connecting
  /-- The handshake is complete. -/
  | connected
  /-- The session was closed. -/
  | disconnected
deriving DecidableEq, Repr

namespace Lifecycle

/-- The label of a state in messages and logs. -/
def label : Lifecycle → String
  | allocated => "allocated"
  | connecting => "connecting"
  | connected => "connected"
  | disconnected => "disconnected"

/-- The name of a state. -/
def name : Lifecycle → String
  | allocated => "Allocated"
  | connecting => "Connecting"
  | connected => "Connected"
  | disconnected => "Disconnected"

/-- Whether a transport may go from one state to another. -/
def mayBecome : Lifecycle → Lifecycle → Bool
  | allocated, connecting => true
  | disconnected, connecting => true
  | connecting, connected => true
  | connecting, allocated => true
  | connected, disconnected => true
  | _, _ => false

end Lifecycle

end SecureStream
