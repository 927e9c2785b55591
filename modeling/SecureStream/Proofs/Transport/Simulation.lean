import SecureStream.Proofs.Transport.Operation
import SecureStream.Proofs.Transport.Projection
import SecureStream.Proofs.Transport.Stages

/-! # Operations over a backing that does the same and more

Where sockets, protocol and clock do the same and more (`Backing.Refines`), every operation does:
`run_refines` brings the operation over the one to that over the other. A connect goes stage by
stage (`advance_refines`). -/

namespace SecureStream

variable {ω σ κ υ τ ι ε δ ν : Type}

/-- `q` does what `p` does, from the start to the close-notify. -/
structure Protocol.Refines (f : τ → σ) (q : Protocol τ) (p : Protocol σ) : Prop extends
    Protocol.Projects f q p where
  start : ∀ setup source, p.start setup source =
    ((q.start setup source).1.map fun o => (f o.1, o.2), (q.start setup source).2)
  isHandshaking : ∀ c, p.isHandshaking (f c) = q.isHandshaking c
  closeNotify : ∀ c, p.closeNotify (f c) = (f (q.closeNotify c).1, (q.closeNotify c).2)

theorem Protocol.annotated_refines (p : Protocol σ) (a : Annotation σ ν) :
    (p.annotated a).Refines Prod.fst p where
  toProjects := p.annotated_projects a
  start setup source := by
    simp only [annotated]
    rcases p.start setup source with ⟨_ | _, _⟩ <;> rfl
  isHandshaking _ := rfl
  closeNotify _ := rfl

/-- `d` goes as `c` does. -/
structure Clock.Refines (F : δ → ε) (d : Clock δ) (c : Clock ε) : Prop where
  now : ∀ e, c.now (F e) = ((d.now e).1, F (d.now e).2)
  sleep : ∀ t e, c.sleep t (F e) = F (d.sleep t e)

theorem Clock.Refines.inEnv {F : υ → ω} {d : Clock υ} {c : Clock ω} (h : d.Refines F c) :
    d.inEnv.Refines (Env.map F) c.inEnv where
  now e := by simp only [Clock.inEnv, Env.map, h.now]
  sleep t e := by simp only [Clock.inEnv, Env.map, h.sleep]

/-- **`a` does what `b` does**, when worlds, sockets and protocol states are brought to those of
`b`. -/
structure Backing.Refines (F : υ → ω) (k : ι → κ) (f : τ → σ) (a : Backing υ τ ι)
    (b : Backing ω σ κ) : Prop where
  sockets : a.sockets.Projects F k b.sockets
  protocol : a.protocol.Refines f b.protocol
  clock : a.clock.Refines F b.clock

/-! ### Handshakes -/

namespace Session

theorem closeNotify_refines {f : τ → σ} {q : Protocol τ} {p : Protocol σ} (h : q.Refines f p)
    (s : Session τ) : (s.mapCore f).closeNotify p = (s.closeNotify q).mapCore f := by
  simp only [closeNotify, mapCore, h.closeNotify]

end Session

namespace Handshake

variable {f : τ → σ} {q : Protocol τ} {p : Protocol σ} {F : δ → ε} {io' : ByteStream δ}
  {io : ByteStream ε} {d : Clock δ} {c : Clock ε}

theorem step_refines (h : q.Refines f p) (hio : io'.Projects F io) (s : Session τ) (e : δ) :
    step p io (s.mapCore f) (F e) =
      ((step q io' s e).1, (step q io' s e).2.1.mapCore f, F (step q io' s e).2.2) := by
  have hw (s : Session τ) : (s.mapCore f).wantsWrite = s.wantsWrite := rfl
  have hh : p.isHandshaking (s.mapCore f).core = q.isHandshaking s.core := h.isHandshaking s.core
  unfold step
  rw [hw, hh]
  by_cases hs : s.wantsWrite
  · simp only [if_pos hs, Session.writeTls_project hio]
    rcases s.writeTls io' e with ⟨x | _ | n, s₁, e₁⟩ <;> rfl
  simp only [if_neg hs]
  by_cases hn : !q.isHandshaking s.core
  · simp only [if_pos hn]
  simp only [if_neg hn, Session.readTls_project h.toProjects hio]
  rcases s.readTls q io' e with ⟨x | _ | n, s₁, e₁⟩
  · rfl
  · rfl
  simp only [Session.process_project h.toProjects]
  rcases s₁.process q with ⟨x | _, s₂⟩
  · simp only [hw]
    by_cases hs₂ : s₂.wantsWrite
    · simp only [if_pos hs₂, Session.writeTls_project hio]
    · simp only [if_neg hs₂]
  · rfl

theorem driveFrom_refines (h : q.Refines f p) (hio : io'.Projects F io) (hc : d.Refines F c)
    (budget : Option Duration) (started fuel steps retries pause : ℕ) (s : Session τ) (e : δ) :
    driveFrom p io c budget started fuel steps retries pause (s.mapCore f) (F e) =
      (driveFrom q io' d budget started fuel steps retries pause s e).map fun o =>
        (o.1, o.2.1.mapCore f, F o.2.2) := by
  induction fuel generalizing steps retries pause s e with
  | zero => rfl
  | succ fuel ih =>
    rw [driveFrom, driveFrom, step_refines h hio]
    rcases step q io' s e with ⟨x | _ | _, s₁, e₁⟩
    · by_cases hx : x.isRetryable
      · simp only [if_pos hx, hc.now, hc.sleep, ih]
        cases budget with
        | none => rfl
        | some limit =>
          dsimp only
          split <;> rfl
      · simp only [if_neg hx]
        rfl
    · exact ih _ _ _ s₁ e₁
    · simp only [hc.now]
      rfl

theorem drive_refines (h : q.Refines f p) (hio : io'.Projects F io) (hc : d.Refines F c)
    (budget : Option Duration) (fuel : ℕ) (s : Session τ) (e : δ) :
    drive p io c budget fuel (s.mapCore f) (F e) =
      (drive q io' d budget fuel s e).map fun o => (o.1, o.2.1.mapCore f, F o.2.2) := by
  simp only [drive, hc.now]
  exact driveFrom_refines h hio hc budget _ fuel 0 0 initialPause s _

end Handshake

namespace Transport

variable {F : υ → ω} {k : ι → κ} {f : τ → σ} {a : Backing υ τ ι} {b : Backing ω σ κ}
  {host : String} {port : ℕ} {c : Credentials} {config : TransportConfig} {fuel : ℕ}

/-! ### Stages of a connect -/

/-- How far a connect has come, with the socket and the protocol state replaced. -/
def Connecting.map (k : ι → κ) (f : τ → σ) : Connecting τ ι → Connecting σ κ
  | vacant => .vacant
  | opened s => .opened (k s)
  | receiveLimited s => .receiveLimited (k s)
  | limited s => .limited (k s)
  | connected s => .connected (k s)
  | provided s p => .provided (k s) p
  | configured s p setup => .configured (k s) p setup
  | started s tls => .started (k s) (tls.mapCore f)
  | ready s tls => .ready (k s) (tls.mapCore f)

theorem release_refines (h : a.Refines F k f b) (p : Connecting τ ι) (e : Env υ) :
    (p.map k f).release b (e.map F) = (p.release a e).map F := by
  cases p with
  | vacant => rfl
  | _ => exact Env.close_project h.sockets _ e

theorem shakeHands_refines (h : a.Refines F k f b) (socket : ι) (s : Session τ) (e : Env υ) :
    shakeHands b (k socket) config fuel (s.mapCore f) (e.map F) =
      (shakeHands a socket config fuel s e).map fun o => (o.1.map (·.mapCore f), o.2.map F) := by
  have hio := Env.stream_projects h.sockets socket
  simp only [shakeHands, Handshake.drive_refines h.protocol hio h.clock.inEnv, Option.map_map]
  congr 1
  funext o
  rcases o with ⟨x | stats, s₁, e₁⟩
  · rfl
  · by_cases hr : stats.retries = 0
    · simp only [Function.comp_apply, if_pos hr]
      rfl
    · simp only [Function.comp_apply, if_neg hr]
      rfl

theorem advance_refines (h : a.Refines F k f b) (p : Connecting τ ι) (e : Env υ) :
    advance b host port c config fuel (p.map k f) (e.map F) =
      (advance a host port c config fuel p e).map fun o => (o.1.map (·.map k f), o.2.map F) := by
  cases p with
  | vacant =>
    simp only [Connecting.map, advance, Env.socket_project h.sockets]
    rcases e.socket a.sockets config.family with ⟨x | s, e₁⟩ <;> rfl
  | opened s =>
    simp only [Connecting.map, advance, Env.setOption_project h.sockets]
    rcases e.setOption a.sockets s (.recvTimeout config.recvTimeout.nonzero?) with ⟨x | _, e₁⟩ <;>
      rfl
  | receiveLimited s =>
    simp only [Connecting.map, advance, Env.setOption_project h.sockets]
    rcases e.setOption a.sockets s (.sendTimeout config.sendTimeout.nonzero?) with ⟨x | _, e₁⟩ <;>
      rfl
  | limited s =>
    simp only [Connecting.map, advance, Env.connect_project h.sockets]
    rcases e.connect a.sockets s host port with ⟨x | _, e₁⟩ <;> rfl
  | connected s =>
    have hr : (e.map F).runtime = e.runtime := rfl
    simp only [Connecting.map, advance, hr]
    rcases e.runtime.provider? with _ | p <;> rfl
  | provided s p =>
    simp only [Connecting.map, advance]
    rcases (SessionSetup.configure p host c config).result with x | setup <;> rfl
  | configured s p setup =>
    rcases hr : a.protocol.start setup p.entropy with ⟨x | ⟨core, records⟩, source⟩
    all_goals
      simp only [Connecting.map, advance, h.protocol.start, hr]
      rfl
  | started s tls =>
    simp only [Connecting.map, advance, shakeHands_refines h, Option.map_map]
    congr 1
    funext o
    rcases o with ⟨x | tls', e₁⟩ <;> rfl
  | ready s tls => rfl

theorem openSession_refines (h : a.Refines F k f b) (e : Env υ) :
    openSession b host port c config fuel (e.map F) =
      (openSession a host port c config fuel e).map fun o =>
        (o.1.map fun l => ⟨k l.socket, l.tls.mapCore f⟩, o.2.map F) := by
  have pass_refines (n : ℕ) (p : Connecting τ ι) (e : Env υ) :
      pass b host port c config fuel n (p.map k f) (e.map F) =
        (pass a host port c config fuel n p e).map fun o =>
          (o.1.map fun l => ⟨k l.socket, l.tls.mapCore f⟩, o.2.map F) := by
    induction n generalizing p e with
    | zero => cases p <;> rfl
    | succ n ih =>
      rw [pass, pass, advance_refines h]
      rcases advance a host port c config fuel p e with _ | ⟨x | q, e₁⟩
      · rfl
      · simp only [Option.map_some, Except.map, release_refines h]
      · exact ih q e₁
  rw [openSession_eq_pass, openSession_eq_pass]
  exact pass_refines 8 .vacant e

/-! ### Closing and connecting -/

theorem reportClose_map (F : υ → ω) (r : Except StreamFault Unit) (e : Env υ) :
    reportClose r (e.map F) = (reportClose r e).map F := by
  rcases r with x | _
  · by_cases hx : x.isRetryable
    · simp only [reportClose, if_pos hx]
      rfl
    · simp only [reportClose, if_neg hx]
      rfl
  · rfl

theorem disconnect_refines (h : a.Refines F k f b) (t : Transport τ ι) (e : Env υ) :
    (t.map k f).disconnect b (e.map F) =
      ((t.disconnect a e).1.map k f, (t.disconnect a e).2.map F) := by
  have hs : (t.map k f).state = t.state := rfl
  have hl : (t.map k f).session = t.session.map fun l => ⟨k l.socket, l.tls.mapCore f⟩ := rfl
  unfold disconnect
  rw [hs, hl]
  by_cases hc : t.state ≠ .connected
  · rw [if_pos hc, if_pos hc]
    rfl
  rw [if_neg hc, if_neg hc]
  rcases t.session with _ | ⟨s, tls⟩
  · rfl
  · simp only [Option.map_some, Session.closeNotify_refines h.protocol,
      Session.flush_project (Env.stream_projects h.sockets s), reportClose_map,
      Env.close_project h.sockets, Env.map_count]
    rfl

theorem drop_refines (h : a.Refines F k f b) (t : Transport τ ι) (e : Env υ) :
    (t.map k f).drop b (e.map F) = (t.drop a e).map F := by
  have hs : (t.map k f).state = t.state := rfl
  unfold drop
  rw [hs, disconnect_refines h]
  split <;> rfl

theorem vacate_refines (h : a.Refines F k f b) (t : Transport τ ι) (e : Env υ) :
    (t.map k f).vacate b (e.map F) = ((t.vacate a e).1.map k f, (t.vacate a e).2.map F) := by
  have hs : (t.map k f).state = t.state := rfl
  unfold vacate
  rw [hs]
  split
  · rw [Env.map_log, disconnect_refines h]
  · rfl

theorem connect_refines (h : a.Refines F k f b) (t : Transport τ ι) (e : Env υ) :
    (t.map k f).connect b host port c config fuel (e.map F) =
      (t.connect a host port c config fuel e).map fun o => (o.1, o.2.1.map k f, o.2.2.map F) := by
  have tryConnect_refines (e : Env υ) :
      tryConnect b host port c config fuel (t.map k f) (e.map F) =
        (tryConnect a host port c config fuel t e).map fun o =>
          (o.1, o.2.1.map k f, o.2.2.map F) := by
    unfold tryConnect
    rcases checkArguments host c with x | _
    · rfl
    simp only [vacate_refines h]
    generalize t.vacate a e = v
    obtain ⟨⟨state, session⟩, e₁⟩ := v
    simp only [map]
    rcases state.transition .connecting with x | state'
    · rfl
    simp only [openSession_refines h, Option.map_map]
    congr 1
    funext o
    rcases o with ⟨x | l, e₂⟩
    · simp only [Function.comp_apply, Except.map]
      rcases state'.transition .allocated with y | state'' <;> rfl
    · simp only [Function.comp_apply, Except.map]
      rcases state'.transition .connected with y | state'' <;> rfl
  unfold connect
  rw [Env.map_count, tryConnect_refines, Option.map_map, Option.map_map]
  congr 1
  funext o
  rcases o with ⟨x | _, t', e'⟩ <;> rfl

/-! ### Operations -/

theorem recvBuffer_refines (h : a.Refines F k f b) (buffer : Bytes) (t : Transport τ ι)
    (e : Env υ) :
    (t.map k f).recvBuffer b fuel buffer (e.map F) =
      (t.recvBuffer a fuel buffer e).map fun o => (o.1, o.2.1, o.2.2.1.map k f, o.2.2.2.map F) := by
  unfold recvBuffer
  rw [recv_over h.sockets h.protocol.toProjects, Option.map_map, Option.map_map]
  congr 1
  funext o
  rcases o with ⟨x | data, t', e'⟩ <;> rfl

/-- **An operation over the two.** -/
theorem run_refines (h : a.Refines F k f b) (op : Operation) (t : Transport τ ι) (e : Env υ) :
    op.run b fuel (t.map k f) (e.map F) =
      (op.run a fuel t e).map fun o => (o.1, o.2.1.map k f, o.2.2.map F) := by
  cases op with
  | connect host port c recvTimeout sendTimeout =>
    simp only [Operation.run, connect_refines h, Option.map_map]
    rfl
  | connectWith host port c config =>
    simp only [Operation.run, connect_refines h, Option.map_map]
    rfl
  | send data =>
    simp only [Operation.run, send_over h.sockets h.protocol.toProjects, Option.map_some]
  | recv limit =>
    simp only [Operation.run, recv_over h.sockets h.protocol.toProjects, Option.map_map]
    rfl
  | recvBuffer buffer =>
    simp only [Operation.run, recvBuffer_refines h, Option.map_map]
    rfl
  | disconnect => simp only [Operation.run, disconnect_refines h, Option.map_some]

end Transport

end SecureStream
