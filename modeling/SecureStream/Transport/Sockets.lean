import SecureStream.Provider
import SecureStream.Session.Handshake

/-! # Sockets and what surrounds them

A transport uses sockets through an interface over some world, in which calls may fail in any way.
The environment of a transport is that world with the shared runtime and the journal, in which every
call is entered. -/

namespace SecureStream

/-- **A socket interface** over a world `ω`, with sockets `κ`. -/
structure Sockets (ω κ : Type) where
  socket : AddressFamily → SocketKind → SocketProtocol → ω → Except IoError κ × ω
  setOption : κ → SocketOption → ω → Except IoError Unit × ω
  connect : κ → (host : String) → (port : Nat) → ω → Except IoError Unit × ω
  send : κ → Bytes → ω → Except IoError Nat × ω
  recv : κ → (limit : Nat) → ω → Except IoError Bytes × ω
  close : κ → ω → ω

/-- **The environment of a transport.** -/
structure Env (ω : Type) where
  world : ω
  runtime : Registry Provider
  journal : Journal

namespace Env

variable {ω κ α : Type}

/-- Logs events. -/
def log (events : List LogEvent) (e : Env ω) : Env ω := { e with journal := e.journal.log events }

/-- Changes a metric. -/
def count (metric : Metric) (by_ : Int) (e : Env ω) : Env ω :=
  { e with journal := e.journal.count metric by_ }

/-- How a call ended, in the journal. -/
def replyOf (done : α → SocketReply) : Except IoError α → SocketReply
  | .ok a => done a
  | .error x => .failed x.kind

/-- Enters a call in the journal and moves on to the world after it. -/
def entered (request : SocketRequest) (done : α → SocketReply) (r : Except IoError α × ω)
    (e : Env ω) : Except IoError α × Env ω :=
  (r.1, { e with world := r.2, journal := e.journal.call request (replyOf done r.1) })

/-- Opens a socket. -/
def socket (i : Sockets ω κ) (family : AddressFamily) (e : Env ω) : Except IoError κ × Env ω :=
  e.entered (.socket family .stream .tcp) (fun _ => .done) (i.socket family .stream .tcp e.world)

/-- Sets an option of a socket. -/
def setOption (i : Sockets ω κ) (s : κ) (option : SocketOption) (e : Env ω) :
    Except IoError Unit × Env ω :=
  e.entered (.setOption option) (fun _ => .done) (i.setOption s option e.world)

/-- Connects a socket. -/
def connect (i : Sockets ω κ) (s : κ) (host : String) (port : Nat) (e : Env ω) :
    Except IoError Unit × Env ω :=
  e.entered (.connect host port) (fun _ => .done) (i.connect s host port e.world)

/-- Sends on a socket. -/
def send (i : Sockets ω κ) (s : κ) (b : Bytes) (e : Env ω) : Except IoError Nat × Env ω :=
  e.entered .send (fun n => if n = 0 then .nothing else .done) (i.send s b e.world)

/-- Receives from a socket. -/
def recv (i : Sockets ω κ) (s : κ) (limit : Nat) (e : Env ω) : Except IoError Bytes × Env ω :=
  e.entered .recv (fun b => if b.isEmpty then .nothing else .done) (i.recv s limit e.world)

/-- Closes a socket. -/
def close (i : Sockets ω κ) (s : κ) (e : Env ω) : Env ω :=
  { e with world := i.close s e.world, journal := e.journal.call .close .done }

/-- **A connected socket as a byte stream.** -/
def stream (i : Sockets ω κ) (s : κ) : ByteStream (Env ω) :=
  ByteStream.normalised ⟨recv i s, send i s⟩

end Env

/-- The clock of a world as that of its environment. -/
def Clock.inEnv {ω : Type} (c : Clock ω) : Clock (Env ω) where
  now e := let (t, world) := c.now e.world; (t, { e with world })
  sleep d e := { e with world := c.sleep d e.world }

end SecureStream
