import SecureStream.Proofs.Retry.Receiving
import SecureStream.Proofs.Transport.Delivery

/-! # Faults that ask for another try are harmless

A caller that tries again runs over a script, and over the same script with such faults inserted:
the second run trails the first call by call (`runs_trailing`).

* `runs_inserted`: the second run comes to its end too, delivers the same plaintext, and puts the
  same octets on the wire, of which the last may still wait in the queue.
* `wire_may_lag`: they may, so that the wire alone need not be the same.
* `fault_may_surface`: a script in which a send fails for good behind one that takes nothing is no
  such script. With a fault inserted the caller comes to flush more often, and meets that send. -/

namespace SecureStream

open Transport

variable {σ : Type} {p : Protocol σ}

/-- **A run behind another.** By induction over the run that is trailed; each of its calls is
answered by some calls from behind. -/
theorem runs_trailing (hp : p.Steady) {prog : Program} {t t₂ : Transport σ Unit}
    {e e₂ : Env Script} {d : Bytes} (hrun : Runs (Script.backing p) prog t e d t₂ e₂)
    {s s' : Session σ} {e' : Env Script} (hs : t = upon s) (h : Trailing s' e'.world s e.world)
    (hc : s'.core = s.core) :
    ∃ s₂ s₂' e₂', t₂ = upon s₂ ∧ Trailing s₂' e₂'.world s₂ e₂.world ∧
      Runs (Script.backing p) prog (upon s') e' d (upon s₂') e₂' := by
  induction hrun generalizing s s' e' with
  | done => exact ⟨s, s', e', hs, h, .done⟩
  | sent _ ih =>
    obtain ⟨s₂, s₂', e₂', ht, h₂, hrun⟩ := ih hs h hc
    exact ⟨s₂, s₂', e₂', ht, h₂, .sent hrun⟩
  | send hd hsend _ ih =>
    subst hs
    obtain ⟨s₁, s₁', e₁', rfl, h₁, hc₁, hruns⟩ := send_trailing hp hd h hc hsend
    obtain ⟨s₂, s₂', e₂', ht, h₂, hrun⟩ := ih rfl h₁ hc₁
    exact ⟨s₂, s₂', e₂', ht, h₂, hruns hrun⟩
  | received _ ih =>
    obtain ⟨s₂, s₂', e₂', ht, h₂, hrun⟩ := ih hs h hc
    exact ⟨s₂, s₂', e₂', ht, h₂, .received hrun⟩
  | receive hk hrecv _ ih =>
    subst hs
    obtain ⟨s₁, s₁', e₁', rfl, h₁, hc₁, hruns⟩ := recv_trailing hp hk h hc hrecv
    obtain ⟨s₂, s₂', e₂', ht, h₂, hrun⟩ := ih rfl h₁ hc₁
    exact ⟨s₂, s₂', e₂', ht, h₂, hruns hrun⟩

theorem trailing_self {s : Session σ} {w w' : Script} (hq : [] ∉ s.outbox)
    (ho : Script.Orderly w.sends) {n m : ℕ} (hs : Inserted n w.sends w'.sends)
    (hr : Inserted m w.recvs w'.recvs) (hw : w'.wire = w.wire) : Trailing s w' s w := by
  refine ⟨rfl, rfl, rfl, rfl, ⟨m, hr⟩, ⟨n, w.sends, hs, .inl ⟨0, ?_⟩⟩, ho, hq, hq⟩
  unfold Session.channel
  rw [hw]
  exact .nil

/-! ### An octet in two worlds -/

/-- A script that takes octets one by one. -/
def Script.ready : Script := ⟨.const (.ok 1), .const (.ok []), []⟩

/-- The same with a fault inserted. -/
def Script.stalled : Script :=
  { ready with sends := .cons (.error (.plain .wouldBlock)) ready.sends }

theorem inserted_stalled : Inserted 1 Script.ready.sends Script.stalled.sends := .fault rfl .none

theorem runs_ready : ∃ t e, Runs (Script.backing .plain) (.send [97] .done) (upon (.fresh [] []))
    Script.ready.inEnv [] t e ∧ e.world.wire = [97] := by
  have hf : ((Session.fresh [] []).accepting .plain [97]).flush (Env.stream Script.sockets ())
      Script.ready.inEnv = (.ok (), _, _) :=
    (Session.flush_of_more rfl).trans (Session.flush_of_empty rfl)
  exact ⟨_, _, runs_send_once (by simp) rfl rfl rfl hf (by simp), rfl⟩

theorem runs_stalled : ∃ t e, Runs (Script.backing .plain) (.send [97] .done) (upon (.fresh [] []))
    Script.stalled.inEnv [] t e ∧ e.world.wire = [] := by
  have hf : ((Session.fresh [] []).accepting .plain [97]).flush (Env.stream Script.sockets ())
      Script.stalled.inEnv =
        (.error (.ofIoError (IoError.normalised (.plain .wouldBlock) .send) .send), _, _) :=
    Session.flush_of_error rfl
  refine ⟨_, _, runs_send_once (by simp) rfl rfl rfl hf fun f h => ?_, rfl⟩
  obtain rfl := Except.error.inj h
  rw [isRetryable_normalised]
  rfl

/-! ### Two scripts -/

/-- **Faults that ask for another try do not show.** A caller that sends all of something and
receives exact numbers of octets, trying again, comes to its end over a script. Then it also comes
to its end over the script with such faults inserted, receives the same plaintext, and the octets on
the wire and in the queue are the same ones in the same order. The script may hold short writes,
also of nothing, and faults of its own; but of its sends none fails for good behind one that takes
nothing. -/
theorem runs_inserted (hp : p.Steady) {prog : Program} {s : Session σ} {e e' e₁ : Env Script}
    {t : Transport σ Unit} {d : Bytes} {n m : ℕ} (hq : [] ∉ s.outbox)
    (ho : Script.Orderly e.world.sends) (hs : Inserted n e.world.sends e'.world.sends)
    (hr : Inserted m e.world.recvs e'.world.recvs) (hw : e'.world.wire = e.world.wire)
    (hrun : Runs (Script.backing p) prog (upon s) e d t e₁) :
    ∃ s₁ s₁' e₁', t = upon s₁ ∧ Runs (Script.backing p) prog (upon s) e' d (upon s₁') e₁' ∧
      e₁'.world.wire ++ s₁'.outbox.flatten = e₁.world.wire ++ s₁.outbox.flatten := by
  obtain ⟨s₁, s₁', e₁', ht, h, hrun'⟩ :=
    runs_trailing hp hrun rfl (trailing_self hq ho hs hr hw) rfl
  exact ⟨s₁, s₁', e₁', ht, hrun', h.channel.total⟩

/-- In both worlds the octet is on the wire or in the queue. -/
theorem runs_inserted_stalled :
    ∃ t e₁, Runs (Script.backing .plain) (.send [97] .done) (upon (.fresh [] []))
        Script.ready.inEnv [] t e₁ ∧
      ∃ s₁ s₁' e₁', t = upon s₁ ∧
        Runs (Script.backing .plain) (.send [97] .done) (upon (.fresh [] []))
          Script.stalled.inEnv [] (upon s₁') e₁' ∧
        e₁'.world.wire ++ s₁'.outbox.flatten = e₁.world.wire ++ s₁.outbox.flatten := by
  obtain ⟨t, e₁, hrun, -⟩ := runs_ready
  have ho : Script.Orderly Script.ready.inEnv.world.sends := Script.orderly_of_forall fun _ h => h
  have hs : Inserted 1 Script.ready.inEnv.world.sends Script.stalled.inEnv.world.sends :=
    inserted_stalled
  exact ⟨t, e₁, hrun, runs_inserted steady_plain List.not_mem_nil ho hs .none rfl hrun⟩

/-- **The wire may lag.** The last octet waits in the queue if nothing is sent or received behind
it. -/
theorem wire_may_lag :
    Protocol.plain.Steady ∧ Inserted 1 Script.ready.sends Script.stalled.sends ∧
    ∃ t e₁, Runs (Script.backing .plain) (.send [97] .done) (upon (.fresh [] [])) Script.ready.inEnv
        [] t e₁ ∧
      ∀ d t' e₁', Runs (Script.backing .plain) (.send [97] .done) (upon (.fresh [] []))
        Script.stalled.inEnv d t' e₁' → e₁'.world.wire ≠ e₁.world.wire := by
  obtain ⟨t, e₁, hrun, hw⟩ := runs_ready
  refine ⟨steady_plain, inserted_stalled, t, e₁, hrun, fun d t' e₁' hrun' => ?_⟩
  obtain ⟨t₂, e₂, hstalled, hw₂⟩ := runs_stalled
  obtain ⟨-, -, rfl⟩ := hstalled.unique hrun'
  rw [hw, hw₂]
  simp

/-! ### A fault for good behind answers that take nothing -/

/-- The wire takes nothing three times and fails then. -/
def Script.failing : Script :=
  ⟨.cons (.ok 0) (.cons (.ok 0) (.cons (.ok 0) (.const (.error (.plain .brokenPipe))))),
    .const (.ok [98]), []⟩

/-- The same with a fault inserted into the receives. -/
def Script.failingStalled : Script :=
  { failing with recvs := .cons (.error (.plain .wouldBlock)) failing.recvs }

/-- A session whose writer has accepted an octet. -/
def queued : Session Bytes := ⟨[], [[97]], [], false, false, none⟩

theorem send_queued {e : Env Script} (he : e.world.sends.head = .ok 0) :
    ∃ e', (upon (.fresh [] [])).send (Script.backing .plain) [97] e = (.ok 1, upon queued, e') ∧
      e'.world = { e.world with sends := e.world.sends.tail } := by
  obtain ⟨e', hf, hworld⟩ := Session.flush_of_head_zero (s := queued) (by decide) (by decide) he
  have hs : sendOn (Script.backing .plain) () [97] (.fresh [] []) e =
      (.ok 1, queued, e'.count .bytesSent 1) :=
    sendOn_of_takes (Session.flush_of_empty rfl) rfl hf fun f h => by
      obtain rfl := Except.error.inj h
      rfl
  refine ⟨e'.count .bytesSent 1, ?_, hworld⟩
  rw [send_upon (by simp), hs]

theorem holding_queued {e : Env Script} (he : e.world.sends.head = .ok 0)
    (hr : e.world.recvs.head = .ok [98]) :
    ∃ e', Holding (Script.backing .plain) () queued e (.ok ()) { queued with inbox := [98] } e' ∧
      e'.world.sends = e.world.sends.tail := by
  obtain ⟨e₁, hf, hworld⟩ := Session.flush_of_head_zero (s := queued) (by decide) (by decide) he
  have hr₁ : e₁.world.recvs.head = .ok [98] := by rw [hworld]; exact hr
  have hroom : Protocol.plain.room queued.core = (some 4096, queued.core) := rfl
  obtain ⟨e₂, ht, hworld₂⟩ := Session.readTls_of_head_ok rfl hroom hr₁
  refine ⟨e₂, ?_, by rw [hworld₂, hworld]⟩
  exact Holding.start.round (congrArg Turn.afterFlush hf) ⟨rfl, rfl, rfl⟩ ht rfl

theorem recv_queued {e : Env Script} (he : e.world.sends.head = .ok 0)
    (hr : e.world.recvs.head = .error (.plain .wouldBlock)) :
    ∃ fuel e',
      (upon queued).recv (Script.backing .plain) 1 fuel e = some (.ok [], upon queued, e') ∧
      e'.world = ⟨e.world.sends.tail, e.world.recvs.tail, e.world.wire⟩ := by
  obtain ⟨e₁, hf, hworld⟩ := Session.flush_of_head_zero (s := queued) (by decide) (by decide) he
  have hr₁ : e₁.world.recvs.head = .error (.plain .wouldBlock) := by rw [hworld]; exact hr
  have hroom : Protocol.plain.room queued.core = (some 4096, queued.core) := rfl
  obtain ⟨e₂, ht, hworld₂⟩ := Session.readTls_of_head_error rfl hroom hr₁
  have hb : ComesBy Protocol.plain 1 queued e queued e₁ := by
    refine comesBy_of_flush hf fun f h => ?_
    obtain rfl := Except.error.inj h
    rfl
  obtain ⟨fuel, ho⟩ := hb.recv Nat.one_pos
    (turn_of_waits ⟨rfl, rfl, rfl⟩ ht (by rw [isRetryable_normalised]; rfl))
  exact ⟨fuel, _, ho, hworld₂.trans (by rw [hworld])⟩

/-- What the caller does: it sends an octet and receives one. -/
def pingPong : Program := .send [97] (.receive 1 fun _ => .done)

theorem runs_failing : ∃ d t e, Runs (Script.backing .plain) pingPong (upon (.fresh [] []))
    Script.failing.inEnv d t e := by
  obtain ⟨e₁, hs, hworld₁⟩ := send_queued (e := Script.failing.inEnv) rfl
  obtain ⟨e₂, hh, hworld₂⟩ := holding_queued (e := e₁) (by rw [hworld₁]; rfl) (by rw [hworld₁]; rfl)
  obtain ⟨e₃, hf, -⟩ := Session.flush_of_head_zero (s := { queued with inbox := [98] }) (e := e₂)
    (by decide) (by decide) (by rw [hworld₂, hworld₁]; rfl)
  obtain ⟨fuel, ho⟩ := recvOn_of_passed hh (congrArg Turn.afterFlush hf) (by simp) Nat.one_pos
  have hrecv := recv_upon Nat.one_pos (Script.backing .plain) fuel queued e₁
  rw [ho] at hrecv
  exact ⟨_, _, _, .send (by simp) hs (.sent (.receive Nat.one_pos hrecv (.received .done)))⟩

theorem not_runs_failingStalled : ¬∃ d t e, Runs (Script.backing .plain) pingPong
    (upon (.fresh [] [])) Script.failingStalled.inEnv d t e := by
  rintro ⟨d, t, e, hrun⟩
  obtain ⟨e₁, hs, hworld₁⟩ := send_queued (e := Script.failingStalled.inEnv) rfl
  obtain ⟨fuel, e₂, hr, hworld₂⟩ := recv_queued (e := e₁) (by rw [hworld₁]; rfl)
    (by rw [hworld₁]; rfl)
  obtain ⟨e₃, hh, hworld₃⟩ := holding_queued (e := e₂) (by rw [hworld₂, hworld₁]; rfl)
    (by rw [hworld₂, hworld₁]; rfl)
  have hx : e₃.world.sends.head = .error (.plain .brokenPipe) := by
    rw [hworld₃, hworld₂, hworld₁]; rfl
  obtain ⟨e₄, hw, -⟩ := Session.writeTls_of_head_error (s := { queued with inbox := [98] }) rfl hx
  obtain ⟨fuel', ho⟩ := recvOn_of_fatal 1 hh (Session.flush_of_error hw)
    (by rw [isRetryable_normalised]; decide)
  have hrecv := recv_upon Nat.one_pos (Script.backing .plain) fuel' queued e₂
  rw [ho] at hrecv
  -- the run would go by the send, the receive that waits and the one that fails
  have hrun₁ := hrun.of_send (by simp) hs
  cases hrun₁ with
  | send hd _ _ => exact hd rfl
  | sent hrun₁ =>
    obtain ⟨c, d', hc, -, hrun₂⟩ := hrun₁.of_receive Nat.one_pos hr
    obtain rfl := Except.ok.inj hc
    obtain ⟨c', -, hc', -, -⟩ := hrun₂.of_receive Nat.one_pos hrecv
    cases hc'

/-- **A fault may surface.** If a send fails for good behind one that takes nothing, then a caller
that would have come to its end may meet that fault. -/
theorem fault_may_surface :
    Protocol.plain.Steady ∧ Inserted 1 Script.failing.recvs Script.failingStalled.recvs ∧
    (∃ d t e, Runs (Script.backing .plain) pingPong (upon (.fresh [] [])) Script.failing.inEnv d t
      e) ∧
    ¬∃ d t e, Runs (Script.backing .plain) pingPong (upon (.fresh [] []))
      Script.failingStalled.inEnv d t e :=
  ⟨steady_plain, .fault rfl .none, runs_failing, not_runs_failingStalled⟩

end SecureStream
