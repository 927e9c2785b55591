import SecureStream.Loopback.Client
import SecureStream.Loopback.Server
import SecureStream.Transport.Sockets

/-! # A network of scripted sockets

Sockets whose every call goes by a script, with a server behind them or a peer that takes everything
and never answers. The sockets are opened after plans, one plan after another, the last again and
again.

* `Network.sockets`: the network as a socket interface.
* `Network.clock`: its time, which passes in sleep, and a little with each look. -/

namespace SecureStream.Loopback

/-! ### Scripts -/

/-- What happens to a call of a socket. -/
inductive Action
  | normal
  | fail (error : IoError)
  /-- At most so many octets are handled. -/
  | atMost (n : Nat)
  /-- Nothing is taken, or the stream has ended. -/
  | nothing
  /-- Octets that come before all others. -/
  | inject (b : Bytes)

/-- The actions for the next calls, and the one for all calls after them. -/
structure Script where
  actions : List Action
  afterwards : Action

namespace Script

/-- All calls go well. -/
def normal : Script := ⟨[], .normal⟩

/-- The action for the next call. -/
def next (s : Script) : Action × Script :=
  match s.actions with
  | [] => (s.afterwards, s)
  | a :: rest => (a, { s with actions := rest })

/-- A script with a part of it replaced. -/
def replaced (s : Script) (actions : Option (List Action)) (afterwards : Option Action) : Script :=
  ⟨actions.getD s.actions, afterwards.getD s.afterwards⟩

end Script

/-! ### Sockets -/

/-- How a socket is to behave. -/
structure Plan where
  socketFault : Option IoError
  recvTimeoutFault : Option IoError
  sendTimeoutFault : Option IoError
  connectFault : Option IoError
  server : Option ServerSetup
  /-- Whether the server sends back what it receives. -/
  echoes : Bool
  sending : Script
  receiving : Script

/-- A socket that behaves well, without a server. -/
def Plan.normal : Plan := ⟨none, none, none, none, none, false, .normal, .normal⟩

/-- **A socket with what is behind it.** -/
structure Socket where
  plan : Plan
  server : Option Server
  sending : Script
  receiving : Script
  /-- Octets that come before those of the server. -/
  injected : Bytes
  /-- Octets of the server that were not received yet. -/
  queue : Bytes
  /-- Whether the stream ends behind the queue. -/
  ended : Bool
  isOpen : Bool

namespace Socket

/-- A socket after a plan. -/
def ofPlan (p : Plan) : Socket where
  plan := p
  server := p.server.map Server.fresh
  sending := p.sending
  receiving := p.receiving
  injected := []
  queue := []
  ended := false
  isOpen := true

/-- Lets the server act; what it writes is queued. -/
def act (f : Server → Server) (s : Socket) : Socket :=
  match s.server with
  | none => s
  | some server =>
    let (records, server) := (f server).handOn
    { s with server := some server, queue := s.queue ++ records.flatten }

/-- Octets reach the server, which answers at once. -/
def deliver (moment : Nat) (b : Bytes) (s : Socket) : Socket :=
  s.act fun server =>
    let after := server.deliver moment b
    if s.plan.echoes then after.write (after.received.drop server.received.length) else after

/-- Sends octets, all of them unless the script limits them. -/
def send (moment : Nat) (b : Bytes) (s : Socket) : Except IoError Nat × Socket :=
  let (action, sending) := s.sending.next
  let s := { s with sending }
  let take (b : Bytes) : Except IoError Nat × Socket := (.ok b.length, s.deliver moment b)
  match action with
  | .normal | .inject _ => take b
  | .fail e => (.error e, s)
  | .atMost n => take (b.take n)
  | .nothing => (.ok 0, s)

/-- Receives what is there, injected octets by themselves. -/
def receive (limit : Nat) (s : Socket) : Except IoError Bytes × Socket :=
  if !s.injected.isEmpty then
    (.ok (s.injected.take limit), { s with injected := s.injected.drop limit })
  else if !s.queue.isEmpty then
    (.ok (s.queue.take limit), { s with queue := s.queue.drop limit })
  else if s.ended || s.server.any Server.failed then (.ok [], s)
  else (.error (.plain .wouldBlock), s)

/-- Receives octets as the script has it. -/
def recv (limit : Nat) (s : Socket) : Except IoError Bytes × Socket :=
  let (action, receiving) := s.receiving.next
  let s := { s with receiving }
  match action with
  | .normal => s.receive limit
  | .fail e => (.error e, s)
  | .atMost n => s.receive (min limit n)
  | .nothing => (.ok [], s)
  | .inject b => { s with injected := b ++ s.injected }.receive limit

/-- Replaces parts of the scripts. -/
def rescript (f g : Script → Script) (s : Socket) : Socket :=
  { s with sending := f s.sending, receiving := g s.receiving }

end Socket

/-! ### The network -/

/-- **The network.** -/
structure Network where
  /-- The moment at which certificates are judged, in seconds. -/
  moment : Nat
  /-- The plans of the sockets that are not opened yet. -/
  plans : List Plan
  /-- The sockets that were opened, oldest first. -/
  opened : List Socket
  /-- The time that has passed, in nanoseconds. -/
  elapsed : Nat

namespace Network

/-- A network before the first call. -/
def fresh (moment : Nat) (plans : List Plan) : Network := ⟨moment, plans, [], 0⟩

/-- The plan of the next socket, and the network without it unless it is the last. -/
def nextPlan (n : Network) : Plan × Network :=
  match n.plans with
  | [] => (.normal, n)
  | [p] => (p, n)
  | p :: rest => (p, { n with plans := rest })

/-- The sockets that are open. -/
def openCount (n : Network) : Nat := n.opened.countP Socket.isOpen

/-- The socket that was opened last. -/
def newest? (n : Network) : Option Socket := n.opened.getLast?

/-- Changes the socket that was opened last. -/
def onNewest (f : Socket → Socket) (n : Network) : Network :=
  { n with opened := n.opened.modify (n.opened.length - 1) f }

/-- Calls a socket. -/
def call {α : Type} (f : Socket → Except IoError α × Socket) (i : Nat) (n : Network) :
    Except IoError α × Network :=
  match n.opened[i]? with
  | none => (.error (.system 9), n)
  | some s =>
    let (r, s) := f s
    (r, { n with opened := n.opened.set i s })

/-- Opens a socket. -/
def openSocket (n : Network) : Except IoError Nat × Network :=
  let (plan, n) := n.nextPlan
  match plan.socketFault with
  | some e => (.error e, n)
  | none => (.ok n.opened.length, { n with opened := n.opened ++ [.ofPlan plan] })

/-- A call that does nothing but perhaps fail. -/
def mayFail (fault : Plan → Option IoError) (s : Socket) : Except IoError Unit × Socket :=
  match fault s.plan with
  | some e => (.error e, s)
  | none => (.ok (), s)

/-- **The network as a socket interface.** -/
def sockets : Sockets Network Nat where
  socket _ _ _ n := n.openSocket
  setOption i option n :=
    let fault (p : Plan) : Option IoError :=
      match option with
      | .recvTimeout _ => p.recvTimeoutFault
      | .sendTimeout _ => p.sendTimeoutFault
    n.call (mayFail fault) i
  connect i _ _ n := n.call (mayFail Plan.connectFault) i
  send i b n := n.call (Socket.send n.moment b) i
  recv i limit n := n.call (Socket.recv limit) i
  close i n := { n with opened := n.opened.modify i fun s => { s with isOpen := false } }

/-- The nanoseconds that pass from one look at the time to the next. -/
def lookTime : Nat := 1000

/-- **The time of the network.** A look at it takes a little time itself. -/
def clock : Clock Network where
  now n := (n.elapsed, { n with elapsed := n.elapsed + lookTime })
  sleep d n := { n with elapsed := n.elapsed + d.nanoseconds }

end Network

end SecureStream.Loopback
