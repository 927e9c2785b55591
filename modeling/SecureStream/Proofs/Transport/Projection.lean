import SecureStream.Proofs.Transport.Turn

/-! # Backings that do the same and more

A protocol may keep more in its state than another and do the same with the rest
(`Protocol.Projects`), and so may sockets in their world (`Sockets.Projects`). Then sessions over
the two send and receive alike: the results are the same, and leaving out what is more makes one
session and one environment the other (`send_over`, `recv_over`).

A protocol with a note in its state (`Protocol.annotated`) is such a protocol, whatever is noted:
what holds of runs with notes is said of all runs. -/

namespace SecureStream

variable {ω σ κ υ τ ι ε δ ν : Type}

/-- What came of the octets, over another state. -/
def Processed.map (f : τ → σ) (r : Processed τ) : Processed σ :=
  ⟨f r.core, r.records, r.plaintext, r.closed, r.failure⟩

/-- What came of the plaintext, over another state. -/
def Written.map (f : τ → σ) (w : Written τ) : Written σ := ⟨f w.core, w.accepted, w.records⟩

/-- **`q` does what `p` does**, on states that `f` brings to those of `p`. -/
structure Protocol.Projects (f : τ → σ) (q : Protocol τ) (p : Protocol σ) : Prop where
  room : ∀ c, p.room (f c) = ((q.room c).1, f (q.room c).2)
  feed : ∀ c b, p.feed (f c) b = f (q.feed c b)
  process : ∀ c, p.process (f c) = (q.process c).map f
  write : ∀ c pending b, p.write (f c) pending b = (q.write c pending b).map f

/-! ### Notes -/

/-- **What is noted of a protocol**: at the start, with the first records, and of what comes of
octets, of plaintext and of a close-notify. -/
structure Annotation (σ ν : Type) where
  start : List Bytes → ν
  process : ν → Processed σ → ν := fun note _ => note
  /-- The plaintext was offered; the protocol may accept less. -/
  write : ν → Bytes → Written σ → ν := fun note _ _ => note
  closeNotify : ν → List Bytes → ν := fun note _ => note

/-- **The protocol with a note** in its state. -/
def Protocol.annotated (p : Protocol σ) (a : Annotation σ ν) : Protocol (σ × ν) where
  start setup source :=
    ((p.start setup source).1.map fun o => ((o.1, a.start o.2), o.2), (p.start setup source).2)
  isHandshaking c := p.isHandshaking c.1
  room c := ((p.room c.1).1, (p.room c.1).2, c.2)
  feed c b := (p.feed c.1 b, c.2)
  process c :=
    let r := p.process c.1
    ⟨(r.core, a.process c.2 r), r.records, r.plaintext, r.closed, r.failure⟩
  write c pending b :=
    let w := p.write c.1 pending b
    ⟨(w.core, a.write c.2 b w), w.accepted, w.records⟩
  closeNotify c :=
    let r := p.closeNotify c.1
    ((r.1, a.closeNotify c.2 r.2), r.2)
  agreement c := p.agreement c.1

theorem Protocol.annotated_projects (p : Protocol σ) (a : Annotation σ ν) :
    (p.annotated a).Projects Prod.fst p :=
  ⟨fun _ => rfl, fun _ _ => rfl, fun _ => rfl, fun _ _ _ => rfl⟩

/-! ### Sockets -/

/-- **`j` does what `i` does**, in worlds that `F` brings to those of `i` and with sockets that `k`
brings to those of `i`. -/
structure Sockets.Projects (F : υ → ω) (k : ι → κ) (j : Sockets υ ι) (i : Sockets ω κ) : Prop where
  socket : ∀ family kind protocol w, i.socket family kind protocol (F w) =
    ((j.socket family kind protocol w).1.map k, F (j.socket family kind protocol w).2)
  setOption : ∀ s option w,
    i.setOption (k s) option (F w) = ((j.setOption s option w).1, F (j.setOption s option w).2)
  connect : ∀ s host port w,
    i.connect (k s) host port (F w) = ((j.connect s host port w).1, F (j.connect s host port w).2)
  send : ∀ s b w, i.send (k s) b (F w) = ((j.send s b w).1, F (j.send s b w).2)
  recv : ∀ s limit w, i.recv (k s) limit (F w) = ((j.recv s limit w).1, F (j.recv s limit w).2)
  close : ∀ s w, i.close (k s) (F w) = F (j.close s w)

theorem Sockets.Projects.refl (i : Sockets ω κ) : i.Projects id id i where
  socket family kind protocol w := by
    rcases h : i.socket family kind protocol w with ⟨_ | _, _⟩ <;> exact h
  setOption _ _ _ := rfl
  connect _ _ _ _ := rfl
  send _ _ _ := rfl
  recv _ _ _ := rfl
  close _ _ := rfl

/-- The same sockets and clock with another protocol. -/
def Backing.over (b : Backing ω σ κ) (q : Protocol τ) : Backing ω τ κ := ⟨b.sockets, q, b.clock⟩

/-! ### Environments -/

namespace Env

/-- The environment with its world replaced. -/
def map (F : υ → ω) (e : Env υ) : Env ω := ⟨F e.world, e.runtime, e.journal⟩

@[simp] theorem map_log (F : υ → ω) (events : List LogEvent) (e : Env υ) :
    (e.map F).log events = (e.log events).map F := rfl

@[simp] theorem map_count (F : υ → ω) (metric : Metric) (by_ : Int) (e : Env υ) :
    (e.map F).count metric by_ = (e.count metric by_).map F := rfl

variable {F : υ → ω} {k : ι → κ} {j : Sockets υ ι} {i : Sockets ω κ}

theorem socket_project (h : j.Projects F k i) (family : AddressFamily) (e : Env υ) :
    (e.map F).socket i family = ((e.socket j family).1.map k, (e.socket j family).2.map F) := by
  simp only [socket, map, h.socket]
  rcases j.socket family .stream .tcp e.world with ⟨_ | _, _⟩ <;> rfl

theorem setOption_project (h : j.Projects F k i) (s : ι) (option : SocketOption) (e : Env υ) :
    (e.map F).setOption i (k s) option =
      ((e.setOption j s option).1, (e.setOption j s option).2.map F) := by
  simp only [setOption, map, h.setOption]
  rfl

theorem connect_project (h : j.Projects F k i) (s : ι) (host : String) (port : ℕ) (e : Env υ) :
    (e.map F).connect i (k s) host port =
      ((e.connect j s host port).1, (e.connect j s host port).2.map F) := by
  simp only [connect, map, h.connect]
  rfl

theorem send_project (h : j.Projects F k i) (s : ι) (b : Bytes) (e : Env υ) :
    (e.map F).send i (k s) b = ((e.send j s b).1, (e.send j s b).2.map F) := by
  simp only [send, map, h.send]
  rfl

theorem recv_project (h : j.Projects F k i) (s : ι) (limit : ℕ) (e : Env υ) :
    (e.map F).recv i (k s) limit = ((e.recv j s limit).1, (e.recv j s limit).2.map F) := by
  simp only [recv, map, h.recv]
  rfl

theorem close_project (h : j.Projects F k i) (s : ι) (e : Env υ) :
    (e.map F).close i (k s) = (e.close j s).map F := by
  simp only [close, map, h.close]

theorem stream_projects (h : j.Projects F k i) (s : ι) :
    (stream j s).Projects (map F) (stream i (k s)) :=
  .normalised ⟨fun limit e => recv_project h s limit e, fun b e => send_project h s b e⟩

end Env

/-! ### Sessions -/

namespace Session

variable {f : τ → σ} {q : Protocol τ} {p : Protocol σ} {F : δ → ε} {io' : ByteStream δ}
  {io : ByteStream ε}

theorem read_mapCore (f : τ → σ) (s : Session τ) (limit : ℕ) :
    (s.mapCore f).read limit = ((s.read limit).1, (s.read limit).2.mapCore f) := by
  obtain ⟨core, outbox, inbox, closed, ended, failure⟩ := s
  cases inbox with
  | cons b rest => rfl
  | nil => cases closed <;> cases ended <;> rfl

theorem readTls_project (h : q.Projects f p) (hio : io'.Projects F io) (s : Session τ) (e : δ) :
    (s.mapCore f).readTls p io (F e) =
      ((s.readTls q io' e).1, (s.readTls q io' e).2.1.mapCore f, F (s.readTls q io' e).2.2) := by
  obtain ⟨core, outbox, inbox, closed, ended, failure⟩ := s
  cases closed with
  | true => rfl
  | false =>
    simp only [readTls, mapCore, h.room]
    rcases q.room core with ⟨_ | limit, core'⟩
    · rfl
    · simp only [hio.read]
      rcases io'.read limit e with ⟨_ | data, e'⟩
      · rfl
      · simp only [h.feed]
        rfl

theorem process_project (h : q.Projects f p) (s : Session τ) :
    (s.mapCore f).process p = ((s.process q).1, (s.process q).2.mapCore f) := by
  obtain ⟨core, outbox, inbox, closed, ended, failure⟩ := s
  cases failure with
  | some x => rfl
  | none =>
    simp only [process, mapCore, h.process, Processed.map]
    cases (q.process core).failure <;> rfl

theorem accepting_project (h : q.Projects f p) (s : Session τ) (data : Bytes) :
    (s.mapCore f).accepting p data = (s.accepting q data).mapCore f := by
  have hp : (s.mapCore f).pending = s.pending := rfl
  unfold accepting
  rw [hp]
  simp only [mapCore, h.write, Written.map]

theorem accepted_project (h : q.Projects f p) (s : Session τ) (data : Bytes) :
    (s.mapCore f).accepted p data = s.accepted q data := by
  have hp : (s.mapCore f).pending = s.pending := rfl
  unfold accepted
  rw [hp]
  simp only [mapCore, h.write, Written.map]

end Session

namespace Transport

/-- The transport with its socket and its protocol state replaced. -/
def map (k : ι → κ) (f : τ → σ) (t : Transport τ ι) : Transport σ κ :=
  ⟨t.state, t.session.map fun l => ⟨k l.socket, l.tls.mapCore f⟩⟩

/-- The transport with its protocol state replaced. -/
def mapCore (f : τ → σ) (t : Transport τ κ) : Transport σ κ :=
  ⟨t.state, t.session.map fun l => ⟨l.socket, l.tls.mapCore f⟩⟩

theorem live_map (k : ι → κ) (f : τ → σ) (t : Transport τ ι) :
    (t.map k f).live = t.live.map fun l => ⟨k l.socket, l.tls.mapCore f⟩ := by
  obtain ⟨state, session⟩ := t
  cases state <;> cases session <;> rfl

theorem live_mapCore (f : τ → σ) (t : Transport τ κ) :
    (t.mapCore f).live = t.live.map fun l => ⟨l.socket, l.tls.mapCore f⟩ :=
  live_map id f t

variable {F : υ → ω} {k : ι → κ} {f : τ → σ} {a : Backing υ τ ι} {b : Backing ω σ κ}

theorem faulted_map (F : υ → ω) (operation : String) (x : StreamFault) (e : Env υ) :
    faulted operation x (e.map F) = (faulted operation x e).map F := by
  cases x <;> rfl

/-! ### Sending -/

theorem sendOn_project (hs : a.sockets.Projects F k b.sockets)
    (hp : a.protocol.Projects f b.protocol) (socket : ι) (data : Bytes) (s : Session τ) (e : Env υ) :
    sendOn b (k socket) data (s.mapCore f) (e.map F) =
      ((sendOn a socket data s e).1, (sendOn a socket data s e).2.1.mapCore f,
        (sendOn a socket data s e).2.2.map F) := by
  have flush {s s' : Session τ} {e e' : Env υ} {r : Except StreamFault Unit}
      (he : s.flush (Env.stream a.sockets socket) e = (r, s', e')) :
      (s.mapCore f).flush (Env.stream b.sockets (k socket)) (e.map F) =
        (r, s'.mapCore f, e'.map F) := by
    rw [Session.flush_project (Env.stream_projects hs socket), he]
  have ho := sendOn_spec a socket data s e
  generalize sendOn a socket data s e = o at ho ⊢
  unfold sendOn
  dsimp only
  cases ho with
  | waits h₁ hf => simp only [flush h₁, if_pos hf, Env.map_count]
  | fails h₁ hf =>
    simp only [flush h₁, if_neg hf, ← faulted_map]
    rfl
  | @refused x s₁ e₁ h₁ hx =>
    have hx' : (s₁.mapCore f).failure = some x := hx
    simp only [flush h₁, Session.write_of_failure hx', ← faulted_map]
    rfl
  | @takes s₁ e₁ r s₂ e₂ h₁ hx h₂ hr =>
    have hx' : (s₁.mapCore f).failure = none := hx
    have hw := flush h₂
    rw [← Session.accepting_project hp] at hw
    simp only [flush h₁, Session.write_of_sound hx', hw, Session.accepted_project hp]
    cases r with
    | error g => simp only [if_pos (hr g rfl), Env.map_count]
    | ok _ => rfl
  | @spoilt s₁ e₁ g s₂ e₂ h₁ hx h₂ hf =>
    have hx' : (s₁.mapCore f).failure = none := hx
    have hw := flush h₂
    rw [← Session.accepting_project hp] at hw
    simp only [flush h₁, Session.write_of_sound hx', hw, if_neg hf, ← faulted_map]
    rfl

theorem send_over (hs : a.sockets.Projects F k b.sockets) (hp : a.protocol.Projects f b.protocol)
    (data : Bytes) (t : Transport τ ι) (e : Env υ) :
    (t.map k f).send b data (e.map F) =
      ((t.send a data e).1, (t.send a data e).2.1.map k f, (t.send a data e).2.2.map F) := by
  unfold send
  rw [live_map]
  rcases hl : t.live with x | l
  · rfl
  · simp only [Except.map]
    by_cases hd : data.isEmpty
    · simp only [if_pos hd]
    · simp only [if_neg hd, sendOn_project hs hp]
      rfl

/-- **A send over the two protocols.** -/
theorem send_project {b : Backing ω σ κ} {q : Protocol τ} (h : q.Projects f b.protocol)
    (data : Bytes) (t : Transport τ κ) (e : Env ω) :
    (t.mapCore f).send b data e =
      ((t.send (b.over q) data e).1, (t.send (b.over q) data e).2.1.mapCore f,
        (t.send (b.over q) data e).2.2) :=
  send_over (a := b.over q) (.refl b.sockets) h data t e

/-! ### Receiving -/

/-- A part of a receive with the environment and the protocol state replaced. -/
def Turn.map (F : υ → ω) (f : τ → σ) : Turn υ τ → Turn ω σ
  | .done (r, s, e) => .done (r, s.mapCore f, e.map F)
  | .again s e => .again (s.mapCore f) (e.map F)

theorem failed_map (F : υ → ω) (f : τ → σ) (x : StreamFault) (s : Session τ) (e : Env υ) :
    Turn.failed x (s.mapCore f) (e.map F) = (Turn.failed x s e).map F f := by
  simp only [Turn.failed, Turn.map, faulted_map]

theorem afterFlush_map (F : υ → ω) (f : τ → σ) (r : Except StreamFault Unit) (s : Session τ)
    (e : Env υ) :
    Turn.afterFlush (r, s.mapCore f, e.map F) = (Turn.afterFlush (r, s, e)).map F f := by
  cases r with
  | ok u => rfl
  | error x =>
    by_cases hx : x.isRetryable
    · rw [afterFlush_of_retryable hx, afterFlush_of_retryable hx]
      rfl
    · rw [afterFlush_of_fatal hx, afterFlush_of_fatal hx, failed_map]

theorem turn_project (hs : a.sockets.Projects F k b.sockets) (hp : a.protocol.Projects f b.protocol)
    (socket : ι) (limit : ℕ) (s : Session τ) (e : Env υ) :
    turn b (k socket) limit (s.mapCore f) (e.map F) = (turn a socket limit s e).map F f := by
  have hio := Env.stream_projects hs socket
  simp only [turn, Session.read_mapCore]
  rcases s.read limit with ⟨x | _ | ⟨c, rest⟩, s₁⟩
  · by_cases hk : x.kind ≠ .wouldBlock
    · simp only [if_pos hk, failed_map]
    simp only [if_neg hk, Session.readTls_project hp hio]
    rcases s₁.readTls a.protocol (Env.stream a.sockets socket) e with ⟨x' | n, s₂, e₂⟩
    · by_cases hr : (StreamFault.ofIoError x' .recv).isRetryable
      · simp only [if_pos hr]
        rfl
      · simp only [if_neg hr, failed_map]
    simp only [Session.process_project hp]
    rcases s₂.process a.protocol with ⟨x' | _, s₃⟩
    · simp only [Session.flush_project hio, failed_map]
    · simp only [Session.flush_project hio, afterFlush_map]
  · simp only [failed_map]
  · rfl

theorem recvLoop_project (hs : a.sockets.Projects F k b.sockets)
    (hp : a.protocol.Projects f b.protocol) (socket : ι) (limit fuel : ℕ) (s : Session τ)
    (e : Env υ) :
    recvLoop b (k socket) limit fuel (s.mapCore f) (e.map F) =
      (recvLoop a socket limit fuel s e).map fun o => (o.1, o.2.1.mapCore f, o.2.2.map F) := by
  induction fuel generalizing s e with
  | zero => rfl
  | succ fuel ih =>
    rw [recvLoop_succ_eq, recvLoop_succ_eq, turn_project hs hp]
    cases turn a socket limit s e with
    | done o => rfl
    | again s₁ e₁ => exact ih s₁ e₁

theorem recvOn_project (hs : a.sockets.Projects F k b.sockets)
    (hp : a.protocol.Projects f b.protocol) (socket : ι) (limit fuel : ℕ) (s : Session τ)
    (e : Env υ) :
    recvOn b (k socket) limit fuel (s.mapCore f) (e.map F) =
      (recvOn a socket limit fuel s e).map fun o => (o.1, o.2.1.mapCore f, o.2.2.map F) := by
  rw [recvOn_eq, recvOn_eq, Session.flush_project (Env.stream_projects hs socket)]
  rcases s.flush (Env.stream a.sockets socket) e with ⟨r, s₁, e₁⟩
  dsimp only
  rw [afterFlush_map]
  cases Turn.afterFlush (r, s₁, e₁) with
  | done o => rfl
  | again s₂ e₂ => exact recvLoop_project hs hp socket limit fuel s₂ e₂

theorem recv_over (hs : a.sockets.Projects F k b.sockets) (hp : a.protocol.Projects f b.protocol)
    (limit fuel : ℕ) (t : Transport τ ι) (e : Env υ) :
    (t.map k f).recv b limit fuel (e.map F) =
      (t.recv a limit fuel e).map fun o => (o.1, o.2.1.map k f, o.2.2.map F) := by
  unfold recv
  rw [live_map]
  rcases hl : t.live with x | l
  · rfl
  · simp only [Except.map]
    by_cases hz : limit = 0
    · simp only [if_pos hz]
      rfl
    · simp only [if_neg hz, recvOn_project hs hp, Option.map_map]
      rfl

/-- **A receive over the two protocols.** -/
theorem recv_project {b : Backing ω σ κ} {q : Protocol τ} (h : q.Projects f b.protocol)
    (limit fuel : ℕ) (t : Transport τ κ) (e : Env ω) :
    (t.mapCore f).recv b limit fuel e =
      (t.recv (b.over q) limit fuel e).map fun o => (o.1, o.2.1.mapCore f, o.2.2) :=
  recv_over (a := b.over q) (.refl b.sockets) h limit fuel t e

end Transport

end SecureStream
