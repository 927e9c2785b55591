import SecureStream.Proofs.Scripted
import SecureStream.Proofs.Transport.Exchange
import SecureStream.Proofs.Transport.OpenSockets
import SecureStream.Proofs.Transport.Operation
import SecureStream.Proofs.Transport.Stateless

/-! # The life of a transport and of its sockets

Between operations a transport is never connecting and has a session exactly while it is connected
(`Settled`); then one socket of it is open, else none (`openCount`). `run_kept` says that every
operation keeps this and leaves at no moment two sockets open; by induction over the operations it
holds of every reachable transport. -/

namespace SecureStream.Transport

variable {ω σ κ : Type} {b : Backing ω σ κ} {host : String} {port : ℕ} {c : Credentials}
  {config : TransportConfig} {fuel : ℕ}

/-- **What holds of a transport between operations.** -/
structure Settled (t : Transport σ κ) : Prop where
  idle : t.state ≠ .connecting
  session_iff : t.session.isSome ↔ t.state = .connected

/-- How many sockets a transport holds. -/
def openCount (t : Transport σ κ) : ℤ := if t.state = .connected then 1 else 0

theorem openCount_of_connected {t : Transport σ κ} (h : t.state = .connected) : t.openCount = 1 :=
  if_pos h

theorem openCount_of_ne {t : Transport σ κ} (h : t.state ≠ .connected) : t.openCount = 0 :=
  if_neg h

theorem openCount_bounds (t : Transport σ κ) : 0 ≤ t.openCount ∧ t.openCount ≤ 1 := by
  unfold openCount
  split <;> omega

theorem transition_connecting {s : Lifecycle} (h : s ≠ .connected) (hc : s ≠ .connecting) :
    s.transition .connecting = .ok .connecting := by
  cases s with
  | allocated => rfl
  | connecting => exact absurd rfl hc
  | connected => exact absurd rfl h
  | disconnected => rfl

theorem settled_of_live {t : Transport σ κ} {l : Live σ κ} (h : t.state = .connected)
    (hl : t.session = some l) : t.Settled := by
  refine ⟨by rw [h]; decide, ?_⟩
  rw [hl, h]
  exact iff_of_true rfl rfl

theorem settled_of_vacant {t : Transport σ κ} (h : t.state ≠ .connected)
    (hc : t.state ≠ .connecting) (hs : t.session = none) : t.Settled := by
  refine ⟨hc, ?_⟩
  rw [hs]
  exact iff_of_false Bool.false_ne_true h

theorem Settled.session_eq_none {t : Transport σ κ} (h : t.Settled) (hs : t.state ≠ .connected) :
    t.session = none := by
  rw [← Option.not_isSome_iff_eq_none]
  exact fun hl => hs (h.session_iff.mp hl)

theorem Settled.exists_session {t : Transport σ κ} (h : t.Settled) (hs : t.state = .connected) :
    ∃ l, t.session = some l :=
  Option.isSome_iff_exists.mp (h.session_iff.mpr hs)

/-! ### Closing -/

theorem reportClose_calls (r : Except StreamFault Unit) (e : Env ω) :
    (reportClose r e).journal.calls = e.journal.calls := by
  unfold reportClose
  split
  · rfl
  · split <;> rfl

/-- **After a disconnect no session and no socket is left.** -/
theorem disconnect_spec {t : Transport σ κ} (h : t.Settled) (e : Env ω) :
    (t.disconnect b e).1.Settled ∧ (t.disconnect b e).1.state ≠ .connected ∧
      Env.Leads t.openCount e 0 (t.disconnect b e).2 := by
  unfold disconnect
  by_cases hs : t.state = .connected
  · obtain ⟨l, hl⟩ := h.exists_session hs
    have hf := Session.flush_keeps (Env.exchange_keeps b.sockets l.socket)
      (l.tls.closeNotify b.protocol) e
    rw [if_neg (by simpa using hs), hl, openCount_of_connected hs]
    refine ⟨settled_of_vacant (by simp) (by simp) rfl, by simp, ?_⟩
    exact ((hf.congr (reportClose_calls _ _)).trans (.closed b.sockets l.socket _)).congr rfl
  · rw [if_pos hs, openCount_of_ne hs]
    exact ⟨h, hs, .of_calls_eq (by omega) rfl⟩

theorem drop_leads {t : Transport σ κ} (h : t.Settled) (e : Env ω) :
    Env.Leads t.openCount e 0 (t.drop b e) := by
  unfold drop
  by_cases hs : t.state = .connected
  · rw [if_pos hs]
    exact (disconnect_spec h e).2.2
  · rw [if_neg hs, openCount_of_ne hs]
    exact .of_calls_eq (by omega) rfl

/-- **A transport is made ready to connect** by closing the socket that it has. -/
theorem vacate_spec {t : Transport σ κ} (h : t.Settled) (e : Env ω) :
    (t.vacate b e).1.Settled ∧ (t.vacate b e).1.state ≠ .connected ∧
      Env.Leads t.openCount e 0 (t.vacate b e).2 := by
  unfold vacate
  by_cases hs : t.state = .connected
  · rw [if_pos hs]
    obtain ⟨hv, hn, hl⟩ := disconnect_spec (b := b) h
      (e.log [.warning "connect called on a connected transport; closing the old session" []])
    exact ⟨hv, hn, (Env.Leads.of_calls_eq t.openCount_bounds rfl).trans hl⟩
  · rw [if_neg hs, openCount_of_ne hs]
    exact ⟨h, hs, .of_calls_eq (by omega) rfl⟩

/-! ### Connecting -/

theorem setTimeouts_leads (socket : κ) (config : TransportConfig) (e : Env ω) :
    Env.Leads 1 e 1 (setTimeouts b socket config e).2 := by
  have set (o : SocketOption) (e : Env ω) :
      Env.Leads 1 e 1 (e.setOption b.sockets socket o).2 :=
    .entered (fun _ => rfl) (by omega)
  have h := set (.recvTimeout config.recvTimeout.nonzero?) e
  unfold setTimeouts
  dsimp only
  split
  · next he => rw [he] at h; exact h
  · next e₁ he =>
    rw [he] at h
    have h' := set (.sendTimeout config.sendTimeout.nonzero?) e₁
    split <;> next he' => rw [he'] at h'; exact h.trans h'

theorem startSession_calls (host : String) (c : Credentials) (config : TransportConfig)
    (e : Env ω) : (startSession b host c config e).2.journal.calls = e.journal.calls := by
  unfold startSession
  split
  · rfl
  · dsimp only
    split
    · rfl
    · split <;> rfl

theorem shakeHands_leads {socket : κ} {s : Session σ} {e e' : Env ω}
    {r : Except TransportError (Session σ)}
    (h : shakeHands b socket config fuel s e = some (r, e')) : Env.Leads 1 e 1 e' := by
  unfold shakeHands at h
  obtain ⟨⟨_ | stats, s₁, e₁⟩, hd, ho⟩ := Option.map_eq_some_iff.mp h
  · have hk := Handshake.drive_keeps (Env.exchange_keeps b.sockets socket)
      (Env.clock_keeps b.clock) hd
    obtain ⟨-, rfl⟩ := Prod.mk.inj ho
    exact hk.congr rfl
  · have hk := Handshake.drive_keeps (Env.exchange_keeps b.sockets socket)
      (Env.clock_keeps b.clock) hd
    obtain ⟨-, rfl⟩ := Prod.mk.inj ho
    refine hk.congr ?_
    split <;> rfl

theorem establish_leads {socket : κ} {e e' : Env ω} {r : Except TransportError (Session σ)}
    (h : establish b socket host port c config fuel e = some (r, e')) : Env.Leads 1 e 1 e' := by
  unfold establish at h
  have ht := setTimeouts_leads (b := b) socket config e
  split at h
  · next he =>
    rw [he] at ht
    obtain ⟨-, rfl⟩ := Prod.mk.inj (Option.some.inj h)
    exact ht
  · next e₁ he =>
    rw [he] at ht
    have hc : Env.Leads 1 e₁ 1 (e₁.connect b.sockets socket host port).2 :=
      .entered (fun _ => rfl) (by omega)
    split at h
    · next he =>
      rw [he] at hc
      obtain ⟨-, rfl⟩ := Prod.mk.inj (Option.some.inj h)
      exact ht.trans hc
    · next e₂ he =>
      rw [he] at hc
      have hs := startSession_calls (b := b) host c config e₂
      split at h
      · next he =>
        rw [he] at hs
        obtain ⟨-, rfl⟩ := Prod.mk.inj (Option.some.inj h)
        exact (ht.trans hc).congr hs
      · next e₃ he =>
        rw [he] at hs
        exact ((ht.trans hc).congr hs).trans (shakeHands_leads h)

theorem openSession_leads_of_ok {e e' : Env ω} {l : Live σ κ}
    (h : openSession b host port c config fuel e = some (.ok l, e')) : Env.Leads 0 e 1 e' := by
  unfold openSession at h
  split at h
  · simp at h
  · next socket e₁ he =>
    obtain ⟨⟨x | tls, e₂⟩, hr, ho⟩ := Option.map_eq_some_iff.mp h
    · simp at ho
    · obtain ⟨-, rfl⟩ := Prod.mk.inj ho
      exact (Env.Leads.opened he).trans (establish_leads hr)

/-- **Without a session no socket is left open.** -/
theorem openSession_leads_of_error {e e' : Env ω} {x : TransportError}
    (h : openSession b host port c config fuel e = some (.error x, e')) : Env.Leads 0 e 0 e' := by
  unfold openSession at h
  split at h
  · next he =>
    obtain ⟨-, rfl⟩ := Prod.mk.inj (Option.some.inj h)
    exact .not_opened he
  · next socket e₁ he =>
    obtain ⟨⟨y | tls, e₂⟩, hr, ho⟩ := Option.map_eq_some_iff.mp h
    · obtain ⟨-, rfl⟩ := Prod.mk.inj ho
      exact ((Env.Leads.opened he).trans (establish_leads hr)).trans (.closed b.sockets socket e₂)
    · simp at ho

/-- **What an operation keeps**: the transport is settled again, its sockets are accounted for. -/
structure Kept (t : Transport σ κ) (e : Env ω) (t' : Transport σ κ) (e' : Env ω) : Prop where
  settled : t'.Settled
  leads : Env.Leads t.openCount e t'.openCount e'

/-- What a connect answers. -/
structure Answered (r : Except TransportError Unit) (t : Transport σ κ) : Prop where
  stateless : Stateless r
  connected : r = .ok () → t.state = .connected

theorem tryConnect_spec {t t' : Transport σ κ} {e e' : Env ω} {r : Except TransportError Unit}
    (ht : t.Settled) (h : tryConnect b host port c config fuel t e = some (r, t', e')) :
    Kept t e t' e' ∧ Answered r t' := by
  unfold tryConnect at h
  have ha := checkArguments_stateless host c
  split at h
  · next x he =>
    simp only [Option.some.injEq, Prod.mk.injEq] at h
    obtain ⟨rfl, rfl, rfl⟩ := h
    rw [he] at ha
    exact ⟨⟨ht, .of_calls_eq t.openCount_bounds rfl⟩, ha, by simp⟩
  · obtain ⟨hv, hn, hl⟩ := vacate_spec (b := b) ht e
    generalize t.vacate b e = v at h hv hn hl
    obtain ⟨v, e₁⟩ := v
    dsimp only at h hv hn hl
    rw [transition_connecting hn hv.idle] at h
    obtain ⟨⟨x | live, e₂⟩, hs, ho⟩ := Option.map_eq_some_iff.mp h
    · simp only [Lifecycle.transition, Lifecycle.mayBecome, if_true, Prod.mk.injEq] at ho
      obtain ⟨rfl, rfl, rfl⟩ := ho
      refine ⟨⟨settled_of_vacant (by simp) (by simp) (hv.session_eq_none hn), ?_⟩,
        (openSession_stateless hs).error, by simp⟩
      exact hl.trans (openSession_leads_of_error hs)
    · simp only [Lifecycle.transition, Lifecycle.mayBecome, if_true, Prod.mk.injEq] at ho
      obtain ⟨rfl, rfl, rfl⟩ := ho
      refine ⟨⟨settled_of_live rfl rfl, ?_⟩, stateless_ok (), fun _ => rfl⟩
      exact (hl.trans (openSession_leads_of_ok hs)).congr rfl

/-- **A connect keeps the transport settled**, whatever stage of it fails. -/
theorem connect_spec {t t' : Transport σ κ} {e e' : Env ω} {r : Except TransportError Unit}
    (ht : t.Settled) (h : t.connect b host port c config fuel e = some (r, t', e')) :
    Kept t e t' e' ∧ Answered r t' := by
  unfold connect at h
  obtain ⟨⟨x | u, t₁, e₁⟩, hc, ho⟩ := Option.map_eq_some_iff.mp h
  · simp only [Prod.mk.injEq] at ho
    obtain ⟨rfl, rfl, rfl⟩ := ho
    obtain ⟨hk, ha⟩ := tryConnect_spec ht hc
    refine ⟨⟨hk.settled, ?_⟩, ha⟩
    exact ((Env.Leads.of_calls_eq t.openCount_bounds rfl).trans hk.leads).congr rfl
  · simp only [Prod.mk.injEq] at ho
    obtain ⟨rfl, rfl, rfl⟩ := ho
    obtain ⟨hk, ha⟩ := tryConnect_spec ht hc
    exact ⟨⟨hk.settled, (Env.Leads.of_calls_eq t.openCount_bounds rfl).trans hk.leads⟩, ha⟩

/-! ### Exchanging plaintext -/

theorem leads_keeps (b : Backing ω σ κ) (socket : κ) :
    Env.Keeps b.sockets socket fun e e' => Env.Leads 1 e 1 e' :=
  ⟨Env.exchange_keeps b.sockets socket, fun _ _ => .of_calls_eq (by omega) rfl,
    fun _ _ _ => .of_calls_eq (by omega) rfl⟩

theorem Kept.refl {t : Transport σ κ} (h : t.Settled) (e : Env ω) : Kept t e t e :=
  ⟨h, .of_calls_eq t.openCount_bounds rfl⟩

theorem kept_of_live {t : Transport σ κ} {l l' : Live σ κ} {e e' : Env ω} (hl : t.live = .ok l)
    (h : Env.Leads 1 e 1 e') : Kept t e { t with session := some l' } e' := by
  obtain ⟨hs, -⟩ := live_eq_ok_iff.mp hl
  have hs' : ({ t with session := some l' } : Transport σ κ).state = .connected := hs
  refine ⟨settled_of_live hs' rfl, ?_⟩
  rw [openCount_of_connected hs, openCount_of_connected hs']
  exact h

theorem send_kept {t : Transport σ κ} (h : t.Settled) (data : Bytes) (e : Env ω) :
    Kept t e (t.send b data e).2.1 (t.send b data e).2.2 := by
  unfold send
  split
  · exact .refl h e
  · next l hl =>
    split
    · exact .refl h e
    · exact kept_of_live hl (sendOn_keeps (leads_keeps b l.socket) data l.tls e)

theorem recv_kept {t t' : Transport σ κ} {limit : ℕ} {e e' : Env ω}
    {r : Except TransportError Bytes} (h : t.Settled)
    (hr : t.recv b limit fuel e = some (r, t', e')) : Kept t e t' e' := by
  unfold recv at hr
  split at hr
  · obtain ⟨-, rfl, rfl⟩ := by simpa using hr
    exact .refl h e
  · next l hl =>
    split at hr
    · obtain ⟨-, rfl, rfl⟩ := by simpa using hr
      exact .refl h e
    · obtain ⟨o, ho, he⟩ := Option.map_eq_some_iff.mp hr
      simp only [Prod.mk.injEq] at he
      obtain ⟨-, rfl, rfl⟩ := he
      exact kept_of_live hl (recvOn_keeps (leads_keeps b l.socket) ho)

theorem recvBuffer_kept {t t' : Transport σ κ} {buffer buffer' : Bytes} {e e' : Env ω}
    {r : Except TransportError ℕ} (h : t.Settled)
    (hr : t.recvBuffer b fuel buffer e = some (r, buffer', t', e')) : Kept t e t' e' := by
  unfold recvBuffer at hr
  obtain ⟨⟨x | data, t₁, e₁⟩, ho, he⟩ := Option.map_eq_some_iff.mp hr
  · simp only [Prod.mk.injEq] at he
    obtain ⟨-, -, rfl, rfl⟩ := he
    exact recv_kept h ho
  · simp only [Prod.mk.injEq] at he
    obtain ⟨-, -, rfl, rfl⟩ := he
    exact recv_kept h ho

/-! ### Operations -/

theorem run_kept {t t' : Transport σ κ} {e e' : Env ω} {op : Operation} {a : Answer}
    (h : t.Settled) (ho : op.run b fuel t e = some (a, t', e')) : Kept t e t' e' := by
  cases op with
  | connect host port c recvTimeout sendTimeout =>
    obtain ⟨⟨r, t₁, e₁⟩, hc, he⟩ := Option.map_eq_some_iff.mp ho
    simp only [Prod.mk.injEq] at he
    obtain ⟨-, rfl, rfl⟩ := he
    exact (connect_spec h hc).1
  | connectWith host port c config =>
    obtain ⟨⟨r, t₁, e₁⟩, hc, he⟩ := Option.map_eq_some_iff.mp ho
    simp only [Prod.mk.injEq] at he
    obtain ⟨-, rfl, rfl⟩ := he
    exact (connect_spec h hc).1
  | send data =>
    rw [Operation.run_send, Option.some.injEq] at ho
    simp only [Prod.mk.injEq] at ho
    obtain ⟨-, rfl, rfl⟩ := ho
    exact send_kept h data e
  | recv limit =>
    obtain ⟨⟨r, t₁, e₁⟩, hc, he⟩ := Option.map_eq_some_iff.mp ho
    simp only [Prod.mk.injEq] at he
    obtain ⟨-, rfl, rfl⟩ := he
    exact recv_kept h hc
  | recvBuffer buffer =>
    obtain ⟨⟨r, buffer', t₁, e₁⟩, hc, he⟩ := Option.map_eq_some_iff.mp ho
    simp only [Prod.mk.injEq] at he
    obtain ⟨-, rfl, rfl⟩ := he
    exact recvBuffer_kept h hc
  | disconnect =>
    rw [Operation.run_disconnect, Option.some.injEq] at ho
    simp only [Prod.mk.injEq] at ho
    obtain ⟨-, rfl, rfl⟩ := ho
    obtain ⟨hs, hn, hl⟩ := disconnect_spec (b := b) h e
    exact ⟨hs, by rw [openCount_of_ne hn]; exact hl⟩

/-- **Runs of operations**, by induction over them. -/
theorem reachable_kept {e₀ : Env ω} {t : Transport σ κ} {e : Env ω} (h : Reachable b e₀ t e) :
    Kept allocated e₀ t e := by
  induction h with
  | allocated => exact .refl (settled_of_vacant (by simp [allocated]) (by simp [allocated]) rfl) e₀
  | step _ ho ih =>
    have hk := run_kept ih.settled ho
    exact ⟨hk.settled, ih.leads.trans hk.leads⟩
  | meanwhile _ hc ih => exact ⟨ih.settled, ih.leads.congr hc⟩

/-- **The invariant of a transport's life.** After every operation a transport is allocated,
connected or disconnected and has a session exactly while it is connected; of the sockets opened for
it one is open then and none otherwise, and at no moment on the way were there two. The next connect
succeeds only if it leaves the transport connected, and never fails for the state; giving the
transport up leaves no socket open. -/
theorem lifecycle_invariant {e₀ : Env ω} {t : Transport σ κ} {e : Env ω}
    (h : Reachable b e₀ t e) :
    (t.state = .allocated ∨ t.state = .connected ∨ t.state = .disconnected) ∧
    (t.session.isSome ↔ t.state = .connected) ∧
    Env.Leads 0 e₀ (if t.state = .connected then 1 else 0) e ∧
    (∀ {fuel host port c config r t' e'},
      t.connect b host port c config fuel e = some (r, t', e') →
        (r = .ok () → t'.state = .connected) ∧ ∀ x y, r ≠ .error (.invalidState x y)) ∧
    Env.Leads 0 e₀ 0 (t.drop b e) := by
  have hk := reachable_kept h
  refine ⟨?_, hk.settled.session_iff, hk.leads, fun {_ _ _ _ _ _ _ _} hc => ?_, ?_⟩
  · have hi := hk.settled.idle
    revert hi
    cases t.state <;> simp
  · obtain ⟨-, ha⟩ := connect_spec hk.settled hc
    exact ⟨ha.connected, ha.stateless⟩
  · exact hk.leads.trans (drop_leads hk.settled e)

/-- A transport that connected and is given up. -/
theorem lifecycle_invariant_connected :
    ∃ (t : Transport Bytes Unit) (e₀ e : Env Script), Reachable (Script.backing .plain) e₀ t e ∧
      t.state = .connected ∧ Env.Leads 0 e₀ 1 e ∧
      Env.Leads 0 e₀ 0 (t.drop (Script.backing .plain) e) := by
  let e₀ := Script.inEnv ⟨.const (.ok 1), .const (.ok []), []⟩
  have hrun : ((Operation.connect "host" 443 .bareRoot (.ofMillis 1) (.ofMillis 1)).run
      (Script.backing .plain) 1 allocated e₀).map (fun o => o.2.1.state) = some .connected := by
    decide +kernel
  obtain ⟨⟨a, t, e⟩, ho, hs⟩ := Option.map_eq_some_iff.mp hrun
  have hr : Reachable (Script.backing .plain) e₀ t e := .step .allocated ho
  obtain ⟨-, -, hl, -, hd⟩ := lifecycle_invariant hr
  rw [if_pos hs] at hl
  exact ⟨t, e₀, e, hr, hs, hl, hd⟩

end SecureStream.Transport
