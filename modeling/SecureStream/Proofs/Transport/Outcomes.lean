import SecureStream.Proofs.Transport.FirstFailure
import SecureStream.Proofs.Transport.Heard
import SecureStream.Proofs.Transport.Moves
import SecureStream.Proofs.Transport.SocketUse

/-! # How an exchange can end

A call that moves plaintext ends well, or with a fault that is for good: a socket that is not ready
shows as a count, never as an error (`Sound`). If no call on a socket failed for good on the way
(`Env.fatal`), a fault has another reason (`Excused`): a record was not sound, the peer has closed,
or the stream has ended.

* `sendOn_sound`, `recvOn_sound`: the two calls.
* `endless_of_recvLoop`: a receive that does not return is fed by the socket without end.
* `exchange_ends`: every exchange of a connected transport. -/

namespace SecureStream

variable {ω σ κ α : Type}

/-! ### Calls that fail for good -/

/-- **Whether a call failed for good**, and not because the socket was not ready. -/
def SocketCall.isFatal (c : SocketCall) : Bool :=
  match c.reply with
  | .failed k => !k.isNotReady
  | _ => false

namespace Env

/-- How many calls failed for good so far, on any socket. -/
def fatal (e : Env ω) : ℕ := e.journal.calls.toList.countP SocketCall.isFatal

theorem fatal_entered (request : SocketRequest) (done : α → SocketReply) (r : Except IoError α × ω)
    (e : Env ω) :
    (e.entered request done r).2.fatal =
      e.fatal + if SocketCall.isFatal ⟨request, replyOf done r.1⟩ then 1 else 0 := by
  simp [fatal, entered, Journal.call, List.countP_append, List.countP_singleton]

theorem fatal_of_entered {request : SocketRequest} {done : α → SocketReply}
    {r : Except IoError α × ω} {e e' : Env ω} {x : IoError}
    (h : e.entered request done r = (.error x, e')) (hx : ¬x.kind.isNotReady) :
    e.fatal < e'.fatal := by
  have hf := fatal_entered request done r e
  rw [h, (Prod.mk.inj h).1] at hf
  simp only [replyOf, SocketCall.isFatal, hx] at hf
  rw [hf]
  exact Nat.lt_succ_self _

theorem fatal_keeps (i : Sockets ω κ) (s : κ) : Keeps i s fun e e' => e.fatal ≤ e'.fatal where
  stream := ByteStream.Keeps.normalised
    ⟨fun _ => Nat.le_refl _, Nat.le_trans,
      fun _ e => (fatal_entered _ _ _ e).symm ▸ Nat.le_add_right _ _,
      fun _ e => (fatal_entered _ _ _ e).symm ▸ Nat.le_add_right _ _⟩
  log _ _ := Nat.le_refl _
  count _ _ _ := Nat.le_refl _

end Env

namespace Session

variable {i : Sockets ω κ} {socket : κ} {s s' : Session σ} {e e' : Env ω}

theorem fatal_of_writeTls (hi : i.Honest) {x : IoError}
    (h : s.writeTls (Env.stream i socket) e = (.error x, s', e')) (hx : ¬x.kind.isNotReady) :
    e.fatal < e'.fatal := by
  unfold writeTls at h
  split at h
  · cases h
  · next record rest hq =>
    have hio : (Env.stream i socket).write record e =
        ((e.send i socket record).1.mapError (·.normalised .send), (e.send i socket record).2) := rfl
    rw [hio] at h
    rcases hs : e.send i socket record with ⟨y | n, e₁⟩ <;> rw [hs] at h
    · cases h
      rw [isNotReady_normalised] at hx
      exact Env.fatal_of_entered hs hx
    · have hn : n ≤ record.length := hi socket record e.world n (Prod.mk.inj hs).1
      have hp : record.length ≤ s.pending := by
        rw [pending, hq, List.flatten_cons, List.length_append]
        exact Nat.le_add_right _ _
      simp only [Except.mapError] at h
      rw [if_pos (Nat.le_trans hn hp)] at h
      cases h

/-- **A flush fails for good only with the socket.** -/
theorem fatal_of_flush (hi : i.Honest) {f : StreamFault}
    (h : s.flush (Env.stream i socket) e = (.error f, s', e')) (hf : ¬f.isRetryable) :
    e.fatal < e'.fatal := by
  fun_induction flush (Env.stream i socket) s e with
  | case1 s e _ x s₁ e₁ hw =>
    cases h
    rw [isRetryable_ofIoError] at hf
    exact fatal_of_writeTls hi hw hf
  | case2 s e _ s₁ e₁ _ =>
    cases h
    exact absurd rfl hf
  | case3 s e _ n s₁ e₁ hw ih =>
    have hk := writeTls_keeps (Env.fatal_keeps i socket).stream s e
    rw [hw] at hk
    exact Nat.lt_of_le_of_lt hk (ih h)
  | case4 s e _ => cases h

/-- **Reading octets fails for good only with the socket**, as long as there is room for them. -/
theorem fatal_of_readTls {p : Protocol σ} (hr : ∀ core, (p.room core).1 ≠ none) {x : IoError}
    (h : s.readTls p (Env.stream i socket) e = (.error x, s', e')) (hx : ¬x.kind.isNotReady) :
    e.fatal < e'.fatal := by
  unfold readTls at h
  split at h
  · cases h
  · split at h
    · next hroom => exact absurd (congrArg Prod.fst hroom) (hr s.core)
    · next limit core _ =>
      have hio : (Env.stream i socket).read limit e =
          ((e.recv i socket limit).1.mapError (·.normalised .recv), (e.recv i socket limit).2) := rfl
      rw [hio] at h
      rcases hs : e.recv i socket limit with ⟨y | b, e₁⟩ <;> rw [hs] at h <;> cases h
      rw [isNotReady_normalised] at hx
      exact Env.fatal_of_entered hs hx

end Session

/-- **Offering a record and reading octets fail only with the socket**: the sockets tell the truth,
and the protocol always has room for what comes. -/
structure Backing.Faithful (b : Backing ω σ κ) : Prop where
  honest : b.sockets.Honest
  roomy : ∀ core, (b.protocol.room core).1 ≠ none

namespace Transport

variable {b : Backing ω σ κ} {socket : κ} {limit : ℕ}

@[simp] theorem fatal_faulted (operation : String) (f : StreamFault) (e : Env ω) :
    (faulted operation f e).fatal = e.fatal := by
  cases f <;> rfl

/-! ### How a call may end -/

/-- **The reasons for a fault that are not with the socket**, by the session behind the call. -/
inductive Excused (s : Session σ) : StreamFault → Prop
  /-- A record was not sound. -/
  | rejected {x} (h : s.failure = some x) : Excused s (.tls x)
  /-- Nothing can be sent behind a record that was not sound. -/
  | refused {x} (h : s.failure = some x) :
    Excused s (.sendFailed (.described .invalidData x.message))
  | closed (h : s.closed = true) : Excused s .peerClosed
  | ended (h : s.ended = true) : Excused s .unexpectedEof

/-- **How a call that began in `e` may end**: well, or with a fault that is for good; and if no call
on a socket was, the fault has another reason. -/
def Sound (e : Env ω) (r : Except TransportError α) (s : Session σ) (e' : Env ω) : Prop :=
  ∀ x, r = .error x →
    ∃ f, x = .stream f ∧ ¬f.isRetryable ∧ (e'.fatal = e.fatal → Excused s f)

theorem sound_ok {e e' : Env ω} {s : Session σ} (a : α) : Sound e (.ok a) s e' := by
  intro x hx
  cases hx

theorem sound_error {e e' : Env ω} {s : Session σ} {f : StreamFault} (hf : ¬f.isRetryable)
    (h : e'.fatal = e.fatal → Excused s f) :
    Sound e (.error (.stream f) : Except TransportError α) s e' := by
  intro x hx
  cases hx
  exact ⟨f, rfl, hf, h⟩

theorem sound_of_fatal {e e' : Env ω} {s : Session σ} {f : StreamFault} (hf : ¬f.isRetryable)
    (h : e.fatal < e'.fatal) : Sound e (.error (.stream f) : Except TransportError α) s e' :=
  sound_error hf fun he => absurd he (Nat.ne_of_gt h)

theorem Sound.mono {e e₁ e' : Env ω} {r : Except TransportError α} {s : Session σ}
    (h : Sound e₁ r s e') (he : e.fatal ≤ e₁.fatal) (he' : e₁.fatal ≤ e'.fatal) :
    Sound e r s e' := by
  intro x hx
  obtain ⟨f, rfl, hf, hs⟩ := h x hx
  exact ⟨f, rfl, hf, fun heq => hs (by omega)⟩

theorem le_of_flush {s s' : Session σ} {e e' : Env ω} {r : Except StreamFault Unit}
    (h : s.flush (Env.stream b.sockets socket) e = (r, s', e')) : e.fatal ≤ e'.fatal := by
  have := Session.flush_keeps (Env.fatal_keeps b.sockets socket).stream s e
  rwa [h] at this

theorem sendOn_sound (hb : b.Faithful) (data : Bytes) (s : Session σ) (e : Env ω) :
    Sound e (sendOn b socket data s e).1 (sendOn b socket data s e).2.1
      (sendOn b socket data s e).2.2 := by
  have ho := sendOn_spec b socket data s e
  generalize sendOn b socket data s e = o at ho
  cases ho with
  | waits _ _ | takes _ _ _ _ => exact sound_ok _
  | fails h hf =>
    refine sound_of_fatal hf ?_
    rw [fatal_faulted]
    exact Session.fatal_of_flush hb.honest h hf
  | refused _ hx =>
    refine sound_error ?_ fun _ => .refused hx
    rw [isRetryable_ofIoError]
    exact Bool.false_ne_true
  | spoilt h _ h₂ hf =>
    refine sound_of_fatal hf ?_
    rw [fatal_faulted]
    exact Nat.lt_of_le_of_lt (le_of_flush h) (Session.fatal_of_flush hb.honest h₂ hf)

theorem afterFlush_sound (hb : b.Faithful) {s : Session σ} {e : Env ω} {o : Received ω σ}
    (h : Turn.afterFlush (s.flush (Env.stream b.sockets socket) e) = .done o) :
    Sound e o.1 o.2.1 o.2.2 := by
  rcases hf : s.flush (Env.stream b.sockets socket) e with ⟨f | u, s₁, e₁⟩ <;> rw [hf] at h
  · by_cases hr : f.isRetryable
    · rw [afterFlush_of_retryable hr] at h
      cases h
    · rw [afterFlush_of_fatal hr] at h
      cases h
      refine sound_of_fatal hr ?_
      rw [fatal_faulted]
      exact Session.fatal_of_flush hb.honest hf hr
  · cases h

theorem le_of_afterFlush {s : Session σ} {e : Env ω} {o : Received ω σ}
    (h : Turn.afterFlush (s.flush (Env.stream b.sockets socket) e) = .done o) :
    e.fatal ≤ o.2.2.fatal := by
  have := afterFlush_keeps (Env.fatal_keeps b.sockets socket) s e
  rwa [h] at this

theorem failure_of_process {p : Protocol σ} {s s' : Session σ} {x : TlsError}
    (h : s.process p = (.error x, s')) : s'.failure = some x := by
  unfold Session.process at h
  split at h
  · next hx =>
    cases h
    exact hx
  · dsimp only at h
    split at h <;> cases h
    assumption

theorem turn_sound (hb : b.Faithful)
    (hl : 0 < limit) {s : Session σ} {e : Env ω} {o : Received ω σ}
    (h : turn b socket limit s e = .done o) : Sound e o.1 o.2.1 o.2.2 := by
  have ht := turn_spec b socket limit s e
  rw [h] at ht
  generalize hq : Turn.done o = q at ht
  have le_of_readTls {s s' : Session σ} {e e' : Env ω} {r : Except IoError ℕ}
      (h : s.readTls b.protocol (Env.stream b.sockets socket) e = (r, s', e')) :
      e.fatal ≤ e'.fatal := by
    have := Session.readTls_keeps (Env.fatal_keeps b.sockets socket).stream b.protocol s e
    rwa [h] at this
  cases ht with
  | delivers _ | waits _ _ _ =>
    cases hq
    exact sound_ok _
  | closed hread =>
    cases hq
    obtain ⟨rfl, -, hc⟩ := Session.eq_of_read_nil hl hread
    exact sound_error (by decide) fun _ => .closed hc
  | ended _ _ he =>
    cases hq
    exact sound_error (by decide) fun _ => .ended he
  | fails _ hread hx =>
    cases hq
    refine sound_of_fatal hx ?_
    rw [fatal_faulted]
    rw [isRetryable_ofIoError] at hx
    exact Session.fatal_of_readTls hb.roomy hread hx
  | @refuses n s₁ e₁ x s₂ _ _ hp =>
    cases hq
    have hx := failure_of_process hp
    refine sound_error (f := .tls x) Bool.false_ne_true fun _ => .rejected ?_
    rw [Session.flush_frame]
    exact hx
  | works _ hread _ ht =>
    subst hq
    refine (afterFlush_sound hb ht).mono (le_of_readTls hread) ?_
    exact le_of_afterFlush ht

theorem receives_sound (hb : b.Faithful)
    (hl : 0 < limit) {s : Session σ} {e : Env ω} {o : Received ω σ}
    (h : Receives b socket limit s e o) : Sound e o.1 o.2.1 o.2.2 := by
  induction h with
  | done ht => exact turn_sound hb hl ht
  | @again s e s' e' o ht rest ih =>
    have hk := turn_keeps (Env.fatal_keeps b.sockets socket) limit s e
    rw [ht] at hk
    exact ih.mono hk (receives_keeps (Env.fatal_keeps b.sockets socket) rest)

theorem recvOn_sound (hb : b.Faithful)
    (hl : 0 < limit) {fuel : ℕ} {s : Session σ} {e : Env ω} {o : Received ω σ}
    (h : recvOn b socket limit fuel s e = some o) : Sound e o.1 o.2.1 o.2.2 := by
  have ho := recvOn_iff.mp ⟨fuel, h⟩
  rcases hf : s.flush (Env.stream b.sockets socket) e with ⟨r, s₁, e₁⟩
  rw [hf] at ho
  cases ht : Turn.afterFlush (r, s₁, e₁) with
  | done o' =>
    rw [ht] at ho
    obtain rfl := ho
    exact afterFlush_sound hb (by rw [hf, ht])
  | again s₂ e₂ =>
    rw [ht] at ho
    obtain ⟨-, rfl, rfl⟩ := afterFlush_eq_again_iff.mp ht
    exact (receives_sound hb hl ho).mono (le_of_flush hf)
      (receives_keeps (Env.fatal_keeps b.sockets socket) ho)

/-! ### Receives that do not return -/

/-- **`m` turns that go on.** -/
inductive Turned (b : Backing ω σ κ) (socket : κ) (limit : ℕ) (s : Session σ) (e : Env ω) :
    ℕ → Session σ → Env ω → Prop
  | start : Turned b socket limit s e 0 s e
  | more {m s₁ e₁ s₂ e₂} (h : Turned b socket limit s e m s₁ e₁)
    (ht : turn b socket limit s₁ e₁ = .again s₂ e₂) : Turned b socket limit s e (m + 1) s₂ e₂

/-- **The socket brings octets turn after turn, without end.** -/
def Endless (b : Backing ω σ κ) (socket : κ) (limit : ℕ) (s : Session σ) (e : Env ω) : Prop :=
  ∀ m, ∃ s' e', Turned b socket limit s e m s' e' ∧ e'.heard = e.heard ++ List.replicate m .done

theorem ended_of_process {p : Protocol σ} (s : Session σ) : (s.process p).2.ended = s.ended := by
  unfold Session.process
  split
  · rfl
  · dsimp only
    split <;> rfl

theorem heard_of_fed {s s' : Session σ} {e e' : Env ω}
    (h : turn b socket limit s e = .again s' e') (he : s'.ended = false) :
    s.ended = false ∧ e'.heard = e.heard ++ [.done] := by
  have ht := turn_spec b socket limit s e
  rw [h] at ht
  generalize hq : Turn.again s' e' = q at ht
  cases ht with
  | @works n s₁ e₁ s₂ t hs hread hp ht =>
    subst hq
    rcases hf : s₂.flush (Env.stream b.sockets socket) e₁ with ⟨r, s₃, e₃⟩
    rw [hf, afterFlush_eq_again_iff] at ht
    obtain ⟨-, rfl, rfl⟩ := ht
    rw [Session.heard_of_flush hf]
    have hended : s₁.ended = false := by
      rw [Session.frame_of_flush hf] at he
      rw [← ended_of_process s₁, hp]
      exact he
    cases Session.reads_of_readTls hread with
    | shut hc =>
      rw [hs.closed] at hc
      cases hc
    | @reads core data _ _ hh =>
      obtain ⟨-, hd⟩ := Bool.or_eq_false_iff.mp hended
      rw [hd] at hh
      exact ⟨hs.ended, hh⟩
  | _ => cases hq

theorem recvLoop_of_turned {s s' : Session σ} {e e' : Env ω} {m : ℕ}
    (h : Turned b socket limit s e m s' e') (fuel : ℕ) :
    recvLoop b socket limit (m + fuel) s e = recvLoop b socket limit fuel s' e' := by
  induction h generalizing fuel with
  | start => rw [Nat.zero_add]
  | @more m s₁ e₁ s₂ e₂ _ ht ih =>
    rw [Nat.add_assoc, Nat.add_comm 1, ih, recvLoop_succ_eq, ht]

theorem exists_turned {s : Session σ} {e : Env ω}
    (h : ∀ fuel, recvLoop b socket limit fuel s e = none) (m : ℕ) :
    ∃ s' e', Turned b socket limit s e m s' e' := by
  induction m with
  | zero => exact ⟨s, e, .start⟩
  | succ m ih =>
    obtain ⟨s', e', ht⟩ := ih
    have hn := h (m + 1)
    rw [recvLoop_of_turned ht, recvLoop_succ_eq] at hn
    cases hturn : turn b socket limit s' e' with
    | done o =>
      rw [hturn] at hn
      cases hn
    | again s₂ e₂ => exact ⟨s₂, e₂, ht.more hturn⟩

theorem heard_of_turned {s s' : Session σ} {e e' : Env ω} {m : ℕ}
    (h : Turned b socket limit s e m s' e') (he : s'.ended = false) :
    e'.heard = e.heard ++ List.replicate m .done := by
  induction h with
  | start => rw [List.replicate_zero, List.append_nil]
  | more _ ht ih =>
    obtain ⟨he₁, hh⟩ := heard_of_fed ht he
    rw [hh, ih he₁, List.append_assoc, List.replicate_succ']

theorem ended_of_again {s s' : Session σ} {e e' : Env ω}
    (h : turn b socket limit s e = .again s' e') : s.ended = false := by
  have ht := turn_spec b socket limit s e
  rw [h] at ht
  generalize hq : Turn.again s' e' = q at ht
  cases ht with
  | works hs _ _ _ => exact hs.ended
  | _ => cases hq

/-- **A receive that does not return** is fed by the socket without end. -/
theorem endless_of_recvLoop {s : Session σ} {e : Env ω}
    (h : ∀ fuel, recvLoop b socket limit fuel s e = none) : Endless b socket limit s e := by
  intro m
  obtain ⟨s₂, e₂, ht⟩ := exists_turned h (m + 1)
  cases ht with
  | more ht hturn => exact ⟨_, _, ht, heard_of_turned ht (ended_of_again hturn)⟩

/-- **A receive returns**, or the socket feeds it without end behind its first flush. -/
theorem recvOn_returns (s : Session σ) (e : Env ω) :
    (∃ fuel o, recvOn b socket limit fuel s e = some o) ∨
      ∃ s' e', e'.heard = e.heard ∧ Endless b socket limit s' e' := by
  rw [or_iff_not_imp_left]
  intro hn
  have hnone (fuel : ℕ) : recvOn b socket limit fuel s e = none :=
    Option.eq_none_iff_forall_ne_some.mpr fun o ho => hn ⟨fuel, o, ho⟩
  simp only [recvOn_eq] at hnone
  rcases hf : s.flush (Env.stream b.sockets socket) e with ⟨r, s₁, e₁⟩
  rw [hf] at hnone
  cases ht : Turn.afterFlush (r, s₁, e₁) with
  | done o =>
    rw [ht] at hnone
    cases hnone 0
  | again s₂ e₂ =>
    rw [ht] at hnone
    obtain ⟨-, rfl, rfl⟩ := afterFlush_eq_again_iff.mp ht
    exact ⟨s₁, e₁, Session.heard_of_flush hf, endless_of_recvLoop hnone⟩

/-! ### Exchanges of a transport -/

section
variable {t t' : Transport σ κ} {l : Live σ κ} {fuel : ℕ} {e e' : Env ω}

/-- **What an exchange that began in `e` leaves**: a sound answer, and the transport connected over
the same socket as before. -/
def Ended (socket : κ) (e : Env ω) (a : Answer) (t' : Transport σ κ) (e' : Env ω) : Prop :=
  ∃ r s, a.count? = some r ∧ Sound e r s e' ∧ t' = ⟨.connected, some ⟨socket, s⟩⟩

theorem Sound.map {β : Type} {r : Except TransportError α} {s : Session σ} (h : Sound e r s e')
    (f : α → β) : Sound e (r.map f) s e' := by
  intro x hx
  cases r with
  | error y => exact h x (congrArg _ (Except.error.inj hx))
  | ok a => cases hx

theorem eq_of_live (h : t.live = .ok l) : t = ⟨.connected, some ⟨l.socket, l.tls⟩⟩ := by
  obtain ⟨state, session⟩ := t
  obtain ⟨hs, hl⟩ := live_eq_ok_iff.mp h
  dsimp only at hs hl
  rw [hs, hl]

theorem send_ended (hb : b.Faithful) (h : t.live = .ok l) (data : Bytes) (e : Env ω) :
    Ended l.socket e (.sent (t.send b data e).1) (t.send b data e).2.1 (t.send b data e).2.2 := by
  by_cases hd : data = []
  · rw [hd, send_nil h]
    exact ⟨_, l.tls, rfl, sound_ok 0, eq_of_live h⟩
  · rw [send_of_live h hd]
    exact ⟨_, _, rfl, sendOn_sound hb data l.tls e, eq_of_live (live_replaced h _)⟩

theorem recv_ended (hb : b.Faithful)
    (h : t.live = .ok l) {r : Except TransportError Bytes}
    (ho : t.recv b limit fuel e = some (r, t', e')) :
    ∃ s, Sound e r s e' ∧ t' = ⟨.connected, some ⟨l.socket, s⟩⟩ := by
  rcases Nat.eq_zero_or_pos limit with rfl | hl
  · rw [recv_zero h] at ho
    cases ho
    exact ⟨l.tls, sound_ok _, eq_of_live h⟩
  · obtain ⟨s, hs, rfl⟩ := recv_of_live h hl ho
    exact ⟨s, recvOn_sound hb hl hs, eq_of_live (live_replaced h s)⟩

theorem run_ended (hb : b.Faithful)
    (h : t.live = .ok l) {op : Operation} {n : ℕ} {a : Answer} (hn : op.room? = some n)
    (ho : op.run b fuel t e = some (a, t', e')) : Ended l.socket e a t' e' := by
  cases op with
  | connect | connectWith | disconnect => cases hn
  | send data =>
    cases ho
    exact send_ended hb h data e
  | recv limit =>
    obtain ⟨⟨r, t₁, e₁⟩, ho, hp⟩ := Option.map_eq_some_iff.mp ho
    cases hp
    obtain ⟨s, hs, ht⟩ := recv_ended hb h ho
    exact ⟨_, s, rfl, hs.map _, ht⟩
  | recvBuffer buffer =>
    obtain ⟨⟨r, buffer', t₁, e₁⟩, ho, hp⟩ := Option.map_eq_some_iff.mp ho
    cases hp
    obtain ⟨⟨x | data, t₂, e₂⟩, ho, hp⟩ := Option.map_eq_some_iff.mp ho
    all_goals
      cases hp
      obtain ⟨s, hs, ht⟩ := recv_ended hb h ho
      exact ⟨_, s, rfl, hs.map List.length, ht⟩

/-- **An exchange returns**, or the socket feeds it without end. -/
theorem run_returns (h : t.live = .ok l) {op : Operation} {n : ℕ} (hn : op.room? = some n)
    (e : Env ω) :
    (∃ fuel o, op.run b fuel t e = some o) ∨
      ∃ s' e', e'.heard = e.heard ∧ Endless b l.socket n s' e' := by
  have recv (limit : ℕ) : (∃ fuel o, t.recv b limit fuel e = some o) ∨
      ∃ s' e', e'.heard = e.heard ∧ Endless b l.socket limit s' e' := by
    rcases Nat.eq_zero_or_pos limit with rfl | hl
    · exact .inl ⟨0, _, recv_zero h⟩
    · refine (recvOn_returns l.tls e).imp_left ?_
      rintro ⟨fuel, o, ho⟩
      refine ⟨fuel, (o.1, { t with session := some { l with tls := o.2.1 } }, o.2.2), ?_⟩
      rw [Transport.recv, h]
      dsimp only
      rw [if_neg (Nat.ne_of_gt hl), ho]
      rfl
  cases op with
  | connect | connectWith | disconnect => cases hn
  | send data => exact .inl ⟨0, _, rfl⟩
  | recv limit =>
    cases hn
    refine (recv n).imp_left ?_
    rintro ⟨fuel, o, ho⟩
    exact ⟨fuel, _, by rw [Operation.run, ho]; rfl⟩
  | recvBuffer buffer =>
    cases hn
    refine (recv recvChunk).imp_left ?_
    rintro ⟨fuel, o, ho⟩
    exact ⟨fuel, _, by rw [Operation.run, recvBuffer, ho]; rfl⟩

end

end Transport

/-! ### Handshakes -/

namespace Handshake

variable {ε : Type} {p : Protocol σ} {io : ByteStream ε} {clock : Clock ε}

/-- **A handshake fails for good**, or its time is up. -/
theorem fault_of_driveFrom {budget : Option Duration} {started fuel steps retries pause : ℕ}
    {s s' : Session σ} {e e' : ε} {f : StreamFault}
    (h : driveFrom p io clock budget started fuel steps retries pause s e =
      some (.error f, s', e')) : f = .timeout ∨ ¬f.isRetryable := by
  induction fuel generalizing steps retries pause s e with
  | zero => cases h
  | succ fuel ih =>
    rw [driveFrom] at h
    split at h
    · cases h
    · exact ih h
    · split at h
      · split at h
        · exact ih h
        · dsimp only at h
          split at h
          · cases h
            exact .inl rfl
          · exact ih h
      · next hf =>
        cases h
        exact .inr hf

end Handshake

namespace Transport

variable {b : Backing ω σ κ}

/-- **How an exchange of a connected transport can end.** The answer is sound, and the transport is
left connected over the same socket: later exchanges end in the same way, and a disconnect closes
that socket. An exchange returns unless the socket feeds it without end. A handshake that fails does
so for good or for want of time, never because the stream is not ready. -/
theorem exchange_ends (hb : b.Faithful)
    {e₀ : Env ω} {t : Transport σ κ} {e : Env ω} (h : Reachable b e₀ t e)
    (hc : t.state = .connected) :
    ∃ l, t = ⟨.connected, some l⟩ ∧
      (∀ (op : Operation) n fuel a t' e', op.room? = some n →
        op.run b fuel t e = some (a, t', e') → Ended l.socket e a t' e' ∧
          (∀ (op₁ : Operation) n₁ fuel₁ a₁ t₁ e₁ e₂, op₁.room? = some n₁ →
            op₁.run b fuel₁ t' e₁ = some (a₁, t₁, e₂) → Ended l.socket e₁ a₁ t₁ e₂) ∧
          ∀ e₁, ∃ f, Env.Adds Env.Exchanges e₁ f ∧ t'.disconnect b e₁ =
            (⟨.disconnected, none⟩, (f.close b.sockets l.socket).count .activeConnections (-1))) ∧
      (∀ (op : Operation) n, op.room? = some n → (∃ fuel o, op.run b fuel t e = some o) ∨
        ∃ s' e', e'.heard = e.heard ∧ Endless b l.socket n s' e') ∧
      ∀ socket budget fuel s e₁ f s' e',
        Handshake.drive b.protocol (Env.stream b.sockets socket) b.clock.inEnv budget fuel s e₁ =
          some (.error f, s', e') → f ≠ .wantRead ∧ f ≠ .wantWrite := by
  obtain ⟨l, hl⟩ := (reachable_kept h).settled.exists_session hc
  have hlive : t.live = .ok l := live_eq_ok_iff.mpr ⟨hc, hl⟩
  refine ⟨l, eq_of_live hlive, fun op n fuel a t' e' hn ho => ?_, fun op n hn =>
    run_returns hlive hn e, fun socket budget fuel s e₁ f s' e' hd => ?_⟩
  · have hend := run_ended hb hlive hn ho
    obtain ⟨-, s, -, -, rfl⟩ := id hend
    refine ⟨hend, fun op₁ n₁ fuel₁ a₁ t₁ e₁ e₂ hn₁ ho₁ => ?_, fun e₁ => ?_⟩
    · exact run_ended hb (l := ⟨l.socket, s⟩) rfl hn₁ ho₁
    · exact disconnect_closes (l := ⟨l.socket, s⟩) (settled_of_live rfl rfl) rfl e₁
  · obtain rfl | hf := Handshake.fault_of_driveFrom hd
    · exact ⟨by simp, by simp⟩
    · constructor <;> rintro rfl <;> exact hf rfl

/-- The peer resets the connection: the fault is for good, and the transport stays connected. -/
theorem exchange_ends_reset :
    ∃ (t t' : Transport Bytes Unit) (e₀ e e' : Env Script) (a : Answer) (f : StreamFault)
      (s : Session Bytes), Reachable (Script.backing .plain) e₀ t e ∧ t.state = .connected ∧
      (Operation.recv 8).run (Script.backing .plain) 1 t e = some (a, t', e') ∧
      a.count? = some (.error (.stream f)) ∧ ¬f.isRetryable ∧
      t' = ⟨.connected, some ⟨(), s⟩⟩ := by
  let e₀ := Script.inEnv ⟨.const (.ok 1), .const (.error (.plain .connectionReset)), []⟩
  let connect := (Operation.connect "host" 443 .bareRoot (.ofMillis 1) (.ofMillis 1)).run
    (Script.backing .plain) 1 allocated e₀
  have hrun : connect.map (fun o => o.2.1.state) = some .connected := by decide +kernel
  have hrecv : (connect.bind fun o =>
      (Operation.recv 8).run (Script.backing .plain) 1 o.2.1 o.2.2).map (fun q => q.1.count?) =
      some (some (.error (.stream
        (.connectionReset (.wrapped .connectionReset (.plain .connectionReset)))))) := by
    decide +kernel
  obtain ⟨⟨a₀, t, e⟩, ho, hs⟩ := Option.map_eq_some_iff.mp hrun
  rw [show connect = some (a₀, t, e) from ho, Option.bind_some] at hrecv
  obtain ⟨⟨a, t', e'⟩, hr, ha⟩ := Option.map_eq_some_iff.mp hrecv
  have h : Reachable (Script.backing .plain) e₀ t e := .step .allocated ho
  have hb : (Script.backing Protocol.plain).Faithful :=
    ⟨Script.honest, by simp [Script.backing, Protocol.plain]⟩
  obtain ⟨l, -, hends, -⟩ := exchange_ends hb h hs
  obtain ⟨⟨r, s, hc, hsound, ht⟩, -⟩ := hends (.recv 8) 8 1 a t' e' rfl hr
  obtain ⟨f, hf, hfatal, -⟩ := hsound _ (Option.some.inj (hc.symm.trans ha))
  cases hf
  exact ⟨t, t', e₀, e, e', a, _, s, h, hs, hr, ha, hfatal, ht⟩

end Transport

end SecureStream
