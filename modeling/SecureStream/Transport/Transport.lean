import SecureStream.Duration
import SecureStream.Transport.Sockets

/-! # Transports

A transport is one connection: it is connected, exchanges plaintext, and is closed. A connect that
fails releases what it acquired and leaves the transport as good as new; a connected transport that
is connected again closes its session first.

* `connect`: opens a socket, sets it up, and runs the handshake; the first stage that fails decides.
* `disconnect`, `drop`: close the session.
* `send`, `recv`, `recvBuffer` are in `SecureStream.Transport.Exchange`. -/

namespace SecureStream

/-- A session over its socket. -/
structure Live (σ κ : Type) where
  socket : κ
  tls : Session σ

/-- **A transport**: where it stands, and its session while it is connected. -/
structure Transport (σ κ : Type) where
  state : Lifecycle
  session : Option (Live σ κ)

/-- What a transport works with: sockets, a protocol and a clock. -/
structure Backing (ω σ κ : Type) where
  sockets : Sockets ω κ
  protocol : Protocol σ
  clock : Clock ω

namespace Transport

variable {ω σ κ : Type}

/-- A transport without a session. -/
def allocated : Transport σ κ := ⟨.allocated, none⟩

/-- Whether a session is established. -/
def isConnected (t : Transport σ κ) : Bool := t.state == .connected

/-- A listing of a transport under a number. -/
def inspect (t : Transport σ κ) (number : String) : String :=
  Tls.CertificateError.listing "TlsTransport"
    [("id", number), ("state", t.state.name),
      ("session", Credentials.inspectPart (t.session.map fun _ => "\"<ClientConnection>\""))]

/-- What the two sides agreed on, while there is a session. -/
def agreement? (b : Backing ω σ κ) (t : Transport σ κ) : Option Agreement :=
  t.session.map fun live => b.protocol.agreement live.tls.core

/-! ### Closing -/

/-- The two parts of a fault's diagnostics as fields of a log event. -/
def faultFields (f : StreamFault) : List (String × String) :=
  [("high_level", f.diagnostics.1), ("low_level", f.diagnostics.2)]

/-- Enters how the close-notify went. -/
def reportClose (r : Except StreamFault Unit) (e : Env ω) : Env ω :=
  match r with
  | .ok () => e.count (.closeNotifies "sent") 1
  | .error f =>
    if f.isRetryable then e.count (.closeNotifies "pending") 1
    else (e.count (.closeNotifies "failed") 1).log
      [.failure "failed to send close-notify" (faultFields f)]

/-- **Closes the session.** The peer is told if possible; the socket is closed in any case. -/
def disconnect (b : Backing ω σ κ) (t : Transport σ κ) (e : Env ω) : Transport σ κ × Env ω :=
  if t.state ≠ .connected then
    (t, e.log [.warning "disconnect called on a transport that is not connected"
      [("state", t.state.label)]])
  else
    match t.session with
    | none => (⟨.disconnected, none⟩, e)
    | some live =>
      match (live.tls.closeNotify b.protocol).flush (Env.stream b.sockets live.socket) e with
      | (r, _, e) =>
        (⟨.disconnected, none⟩,
          ((reportClose r e).close b.sockets live.socket).count .activeConnections (-1))

/-- **Gives a transport up**, after closing its session if there is one. -/
def drop (b : Backing ω σ κ) (t : Transport σ κ) (e : Env ω) : Env ω :=
  if t.state = .connected then (disconnect b t e).2 else e

/-! ### Stages of a connect -/

/-- The arguments have to be there. -/
def checkArguments (host : String) (c : Credentials) : Except TransportError Unit :=
  if host.isEmpty then .error (.invalidParameter "host cannot be empty")
  else c.rootBytes.map fun _ => ()

/-- The timeouts of the socket. -/
def setTimeouts (b : Backing ω σ κ) (socket : κ) (config : TransportConfig) (e : Env ω) :
    Except TransportError Unit × Env ω :=
  let failed (x : IoError) : Except TransportError Unit :=
    .error (.invalidParameter ("failed to set socket timeouts: " ++ x.message))
  match e.setOption b.sockets socket (.recvTimeout config.recvTimeout.nonzero?) with
  | (.error x, e) => (failed x, e)
  | (.ok (), e) =>
    match e.setOption b.sockets socket (.sendTimeout config.sendTimeout.nonzero?) with
    | (.error x, e) => (failed x, e)
    | (.ok (), e) => (.ok (), e)

/-- A fresh session by the provider of the runtime. -/
def startSession (b : Backing ω σ κ) (host : String) (c : Credentials) (config : TransportConfig)
    (e : Env ω) : Except TransportError (Session σ) × Env ω :=
  match e.runtime.provider? with
  | none =>
    (.error (.internal "TLS runtime is not initialised; call TlsRuntime::init first"), e)
  | some provider =>
    let setup := SessionSetup.configure provider host c config
    let e := e.log setup.events
    match setup.result with
    | .error x => (.error x, e)
    | .ok setup =>
      let (r, source) := b.protocol.start setup provider.entropy
      let e := { e with runtime := e.runtime.withProvider { provider with entropy := source } }
      match r with
      | .error x => (.error (.internal ("failed to create TLS session: " ++ x.message)), e)
      | .ok (core, records) => (.ok (.fresh core records), e)

/-- The handshake of a session. `none` if `fuel` steps are not enough. -/
def shakeHands (b : Backing ω σ κ) (socket : κ) (config : TransportConfig) (fuel : Nat)
    (s : Session σ) (e : Env ω) : Option (Except TransportError (Session σ) × Env ω) :=
  let budget := handshakeBudget config.handshakeTimeout config.recvTimeout config.sendTimeout
  let run := Handshake.drive b.protocol (Env.stream b.sockets socket) b.clock.inEnv budget fuel s e
  run.map fun
    | (.ok stats, s, e) =>
      let e := if stats.retries = 0 then e else e.count .handshakeRetries stats.retries
      (.ok s, e.count .handshakeDurations 1)
    | (.error f, _, e) =>
      (.error (.handshakeFailed f),
        e.log [.failure "failed to perform TLS handshake" (faultFields f)])

/-- All stages on an open socket. -/
def establish (b : Backing ω σ κ) (socket : κ) (host : String) (port : Nat) (c : Credentials)
    (config : TransportConfig) (fuel : Nat) (e : Env ω) :
    Option (Except TransportError (Session σ) × Env ω) :=
  match setTimeouts b socket config e with
  | (.error x, e) => some (.error x, e)
  | (.ok (), e) =>
    match e.connect b.sockets socket host port with
    | (.error x, e) => some (.error (.connectFailure host port x), e)
    | (.ok (), e) =>
      match startSession b host c config e with
      | (.error x, e) => some (.error x, e)
      | (.ok s, e) => shakeHands b socket config fuel s e

/-- A session over a socket of its own, which is closed again if a stage fails. -/
def openSession (b : Backing ω σ κ) (host : String) (port : Nat) (c : Credentials)
    (config : TransportConfig) (fuel : Nat) (e : Env ω) :
    Option (Except TransportError (Live σ κ) × Env ω) :=
  match e.socket b.sockets config.family with
  | (.error x, e) => some (.error (.internal ("failed to create socket: " ++ x.message)), e)
  | (.ok socket, e) =>
    (establish b socket host port c config fuel e).map fun
      | (.ok tls, e) => (.ok ⟨socket, tls⟩, e)
      | (.error x, e) => (.error x, e.close b.sockets socket)

/-- A transport without a session, ready to connect. -/
def vacate (b : Backing ω σ κ) (t : Transport σ κ) (e : Env ω) : Transport σ κ × Env ω :=
  if t.state = .connected then
    t.disconnect b
      (e.log [.warning "connect called on a connected transport; closing the old session" []])
  else (t, e)

/-- A connect up to its result, with nothing counted yet. -/
def tryConnect (b : Backing ω σ κ) (host : String) (port : Nat) (c : Credentials)
    (config : TransportConfig) (fuel : Nat) (t : Transport σ κ) (e : Env ω) :
    Option (Except TransportError Unit × Transport σ κ × Env ω) :=
  match checkArguments host c with
  | .error x => some (.error x, t, e)
  | .ok () =>
    match t.vacate b e with
    | (t, e) =>
      match t.state.transition .connecting with
      | .error x => some (.error x, t, e)
      | .ok state =>
        (openSession b host port c config fuel e).map fun
          | (.ok live, e) =>
            match state.transition .connected with
            | .ok state => (.ok (), ⟨state, some live⟩, e.count .activeConnections 1)
            | .error x => (.error x, ⟨state, some live⟩, e)
          | (.error x, e) =>
            match state.transition .allocated with
            | .ok state => (.error x, { t with state }, e)
            | .error y => (.error y, { t with state }, e)

/-- **Connects a transport.** `none` if `fuel` steps of the handshake are not enough. -/
def connect (b : Backing ω σ κ) (host : String) (port : Nat) (c : Credentials)
    (config : TransportConfig) (fuel : Nat) (t : Transport σ κ) (e : Env ω) :
    Option (Except TransportError Unit × Transport σ κ × Env ω) :=
  (tryConnect b host port c config fuel t (e.count .connects 1)).map fun
    | (.ok (), t, e) => (.ok (), t, e)
    | (.error x, t, e) =>
      (.error x, t, (e.count (.failedConnects x.status.label) 1).log
        [.failure "TLS connect failed" [("error", x.message), ("status", x.status.label)]])

end Transport

end SecureStream
