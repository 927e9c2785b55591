import SecureStream.Transport.Transport

/-! # Exchanging plaintext

Sending and receiving on a connected transport. A stream that is not ready shows as a count of zero;
every other fault ends the call with an error but not the session.

* `send`: how many octets were accepted; those are never offered again.
* `recv`: plaintext that is there, else records are read until some comes. -/

namespace SecureStream.Transport

variable {ω σ κ : Type}

/-- A fault of a stream as an error, logged unless the peer just closed. -/
def fail {α : Type} (operation : String) (f : StreamFault) (e : Env ω) :
    Except TransportError α × Env ω :=
  (.error (.stream f),
    match f with
    | .peerClosed => e
    | f => e.log [.failure "TLS I/O failed" (("op", operation) :: faultFields f)])

/-- The session of a connected transport. -/
def live (t : Transport σ κ) : Except TransportError (Live σ κ) :=
  match t.state, t.session with
  | .connected, some live => .ok live
  | state, _ => .error (.invalidState Lifecycle.connected.label state.label)

/-! ### Sending -/

/-- Sends on a session. Records of earlier calls go first. -/
def sendOn (b : Backing ω σ κ) (socket : κ) (data : Bytes) (s : Session σ) (e : Env ω) :
    Except TransportError Nat × Session σ × Env ω :=
  let io := Env.stream b.sockets socket
  match s.flush io e with
  | (.error f, s, e) =>
    if f.isRetryable then (.ok 0, s, e.count (.retries "send") 1)
    else let (r, e) := fail "send" f e; (r, s, e)
  | (.ok (), s, e) =>
    match s.write b.protocol data with
    | (.error x, s) => let (r, e) := fail "send" (.ofIoError x .send) e; (r, s, e)
    | (.ok accepted, s) =>
      let done (s : Session σ) (e : Env ω) : Except TransportError Nat × Session σ × Env ω :=
        (.ok accepted, s, e.count .bytesSent accepted)
      match s.flush io e with
      | (.ok (), s, e) => done s e
      | (.error f, s, e) =>
        if f.isRetryable then done s e else let (r, e) := fail "send" f e; (r, s, e)

/-- **Sends plaintext.** -/
def send (b : Backing ω σ κ) (data : Bytes) (t : Transport σ κ) (e : Env ω) :
    Except TransportError Nat × Transport σ κ × Env ω :=
  match t.live with
  | .error x => (.error x, t, e)
  | .ok live =>
    if data.isEmpty then (.ok 0, t, e)
    else
      match sendOn b live.socket data live.tls e with
      | (r, s, e) => (r, { t with session := some { live with tls := s } }, e)

/-! ### Receiving -/

/-- Reads records until there is plaintext. -/
def recvLoop (b : Backing ω σ κ) (socket : κ) (limit : Nat) :
    (fuel : Nat) → Session σ → Env ω → Option (Except TransportError Bytes × Session σ × Env ω)
  | 0, _, _ => none
  | fuel + 1, s, e =>
    let io := Env.stream b.sockets socket
    let failed (f : StreamFault) (s : Session σ) (e : Env ω) :
        Option (Except TransportError Bytes × Session σ × Env ω) :=
      let (r, e) := fail "recv" f e
      some (r, s, e)
    match s.read limit with
    | (.ok [], s) => failed .peerClosed s e
    | (.ok (x :: rest), s) =>
      some (.ok (x :: rest), s, e.count .bytesReceived (x :: rest).length)
    | (.error x, s) =>
      if x.kind ≠ .wouldBlock then failed (.ofIoError x .recv) s e
      else
        match s.readTls b.protocol io e with
        | (.error x, s, e) =>
          let f := StreamFault.ofIoError x .recv
          if f.isRetryable then some (.ok [], s, e.count (.retries "recv") 1) else failed f s e
        | (.ok _, s, e) =>
          match s.process b.protocol with
          | (.error x, s) =>
            match s.flush io e with
            | (_, s, e) => failed (.tls x) s e
          | (.ok (), s) =>
            match s.flush io e with
            | (.ok (), s, e) => recvLoop b socket limit fuel s e
            | (.error f, s, e) =>
              if f.isRetryable then recvLoop b socket limit fuel s e else failed f s e

theorem recvLoop_succ {b : Backing ω σ κ} {socket : κ} {limit fuel : Nat} {s : Session σ}
    {e : Env ω} {o : Except TransportError Bytes × Session σ × Env ω}
    (h : recvLoop b socket limit fuel s e = some o) :
    recvLoop b socket limit (fuel + 1) s e = some o := by
  induction fuel generalizing s e with
  | zero => simp [recvLoop] at h
  | succ fuel ih =>
    rw [recvLoop] at h ⊢
    dsimp only at h ⊢
    split at h
    · exact h
    · exact h
    · split at h
      · next hk => rw [if_pos hk]; exact h
      · next hk =>
        rw [if_neg hk]
        split at h
        · exact h
        · split at h
          · exact h
          · split at h
            · exact ih h
            · split at h
              · next hr => rw [if_pos hr]; exact ih h
              · next hr => rw [if_neg hr]; exact h

/-- Receives on a session. Records of earlier calls go first. -/
def recvOn (b : Backing ω σ κ) (socket : κ) (limit : Nat) (fuel : Nat) (s : Session σ) (e : Env ω) :
    Option (Except TransportError Bytes × Session σ × Env ω) :=
  match s.flush (Env.stream b.sockets socket) e with
  | (.ok (), s, e) => recvLoop b socket limit fuel s e
  | (.error f, s, e) =>
    if f.isRetryable then recvLoop b socket limit fuel s e
    else let (r, e) := fail "recv" f e; some (r, s, e)

/-- **Receives up to `limit` octets of plaintext.** `none` if `fuel` reads are not enough. -/
def recv (b : Backing ω σ κ) (limit fuel : Nat) (t : Transport σ κ) (e : Env ω) :
    Option (Except TransportError Bytes × Transport σ κ × Env ω) :=
  match t.live with
  | .error x => some (.error x, t, e)
  | .ok live =>
    if limit = 0 then some (.ok [], t, e)
    else
      (recvOn b live.socket limit fuel live.tls e).map fun
        | (r, s, e) => (r, { t with session := some { live with tls := s } }, e)

/-- The octets that are asked for when a buffer grows. -/
def recvChunk : Nat := 4096

/-- **Receives at the end of a buffer**, which stays as it is if nothing came. The count is that of
the octets appended. -/
def recvBuffer (b : Backing ω σ κ) (fuel : Nat) (buffer : Bytes) (t : Transport σ κ) (e : Env ω) :
    Option (Except TransportError Nat × Bytes × Transport σ κ × Env ω) :=
  (t.recv b recvChunk fuel e).map fun
    | (.ok data, t, e) => (.ok data.length, buffer ++ data, t, e)
    | (.error x, t, e) => (.error x, buffer, t, e)

end SecureStream.Transport
