import SecureStream.Proofs.Transport.Delivery
import SecureStream.Proofs.Transport.Heard
import SecureStream.Proofs.Transport.Projection

/-! # How the plaintext of a connection ends

A protocol takes note of what its work on records brought, plaintext and a close-notify
(`Protocol.recording`); apart from that it is the same protocol. Whatever is sent and received over
a session, the plaintext in the note is what was delivered and what waits for the reader, and the
flags of the session are those of the note and of the socket's replies (`Accounted`).

* `recv_ends_soundly`: what a receive says about the end of the plaintext is true, and after the end
  nothing is received any more. -/

namespace SecureStream

variable {ω σ τ κ : Type}

/-! ### Taking notes -/

/-- **What work on records brought**: all of the plaintext, and whether there was a
close-notify. -/
structure Intake where
  plaintext : Bytes
  closed : Bool

/-- Nothing yet. -/
def Intake.empty : Intake := ⟨[], false⟩

/-- **The protocol, with a note of what its work on records brought.** -/
def Protocol.recording (p : Protocol σ) : Protocol (σ × Intake) :=
  p.annotated
    { start := fun _ => .empty
      process := fun note r => ⟨note.plaintext ++ r.plaintext, note.closed || r.closed⟩ }

/-- The same sockets and clock with a protocol that takes notes. -/
def Backing.recording (b : Backing ω σ κ) : Backing ω (σ × Intake) κ := b.over b.protocol.recording

namespace Transport

/-! ### What a caller does -/

/-- **One call of a caller.** -/
inductive Exchange
  | send (data : Bytes)
  | recv (limit fuel : ℕ)

/-- What the receives have delivered so far, the transport and the environment. -/
abbrev Progress (ω σ κ : Type) := Bytes × Transport σ κ × Env ω

/-- The plaintext that a receive delivers. -/
def delivered : Except TransportError Bytes → Bytes
  | .ok data => data
  | .error _ => []

/-- Makes one call. `none` if its fuel is not enough. -/
def Exchange.run (b : Backing ω σ κ) : Exchange → Progress ω σ κ → Option (Progress ω σ κ)
  | .send data, (d, t, e) => some (d, (t.send b data e).2.1, (t.send b data e).2.2)
  | .recv limit fuel, (d, t, e) =>
    (t.recv b limit fuel e).map fun | (r, t, e) => (d ++ delivered r, t, e)

/-- **Makes one call after the other**, whatever becomes of them. -/
def exchange (b : Backing ω σ κ) : List Exchange → Progress ω σ κ → Option (Progress ω σ κ)
  | [], x => some x
  | call :: rest, x => (call.run b x).bind (exchange b rest)

variable {b : Backing ω σ κ}

theorem exchange_append (calls more : List Exchange) (x : Progress ω σ κ) :
    exchange b (calls ++ more) x = (exchange b calls x).bind (exchange b more) := by
  induction calls generalizing x with
  | nil => rfl
  | cons call rest ih =>
    simp only [List.cons_append, exchange, Option.bind_assoc]
    exact Option.bind_congr fun y _ => ih y

/-- **What every call keeps**, a series of calls keeps. -/
theorem exchange_invariant {P : Bytes → Session σ → Env ω → Prop} {socket : κ}
    (send : ∀ {d s e} data, P d s e →
      P d (sendOn b socket data s e).2.1 (sendOn b socket data s e).2.2)
    (recv : ∀ {d s e limit fuel o}, 0 < limit → recvOn b socket limit fuel s e = some o → P d s e →
      P (d ++ delivered o.1) o.2.1 o.2.2)
    {calls : List Exchange} {d d' : Bytes} {t t' : Transport σ κ} {e e' : Env ω} {s : Session σ}
    (hl : t.live = .ok ⟨socket, s⟩) (h : P d s e)
    (hx : exchange b calls (d, t, e) = some (d', t', e')) :
    ∃ s', t'.live = .ok ⟨socket, s'⟩ ∧ P d' s' e' := by
  induction calls generalizing d t e s with
  | nil =>
    cases hx
    exact ⟨s, hl, h⟩
  | cons call rest ih =>
    obtain ⟨⟨d₁, t₁, e₁⟩, hc, hrest⟩ := Option.bind_eq_some_iff.mp hx
    cases call with
    | send data =>
      cases hc
      by_cases hd : data = []
      · subst hd
        rw [send_nil hl] at hrest
        exact ih hl h hrest
      · rw [send_of_live hl hd] at hrest
        exact ih (live_replaced hl _) (send data h) hrest
    | recv limit fuel =>
      obtain ⟨⟨r, t₂, e₂⟩, hr, ho⟩ := Option.map_eq_some_iff.mp hc
      cases ho
      by_cases hz : limit = 0
      · subst hz
        rw [recv_zero hl] at hr
        cases hr
        rw [show d ++ delivered (.ok []) = d from List.append_nil d] at hrest
        exact ih hl h hrest
      · obtain ⟨s₂, ho, rfl⟩ := recv_of_live hl (Nat.pos_of_ne_zero hz) hr
        exact ih (live_replaced hl s₂) (recv (Nat.pos_of_ne_zero hz) ho h) hrest

/-- **A series of calls over two protocols.** -/
theorem exchange_project {f : τ → σ} {q : Protocol τ} (h : q.Projects f b.protocol)
    (calls : List Exchange) (d : Bytes) (t : Transport τ κ) (e : Env ω) :
    exchange b calls (d, t.mapCore f, e) =
      (exchange (b.over q) calls (d, t, e)).map fun x => (x.1, x.2.1.mapCore f, x.2.2) := by
  induction calls generalizing d t e with
  | nil => rfl
  | cons call rest ih =>
    cases call with
    | send data =>
      simp only [exchange, Exchange.run, Option.bind_some, send_project h, ih]
    | recv limit fuel =>
      simp only [exchange, Exchange.run, recv_project h, Option.map_map]
      cases t.recv (b.over q) limit fuel e with
      | none => rfl
      | some o => exact ih _ _ _

/-! ### Notes of a connection -/

/-- The transport with an empty note. -/
def recorded (t : Transport σ κ) : Transport (σ × Intake) κ := t.mapCore fun c => (c, .empty)

/-- The note of the session, as far as there is a session. -/
def intake (t : Transport (σ × Intake) κ) : Intake :=
  (t.session.map fun l => l.tls.core.2).getD .empty

theorem mapCore_recorded (t : Transport σ κ) : t.recorded.mapCore Prod.fst = t := by
  obtain ⟨state, _ | l⟩ := t <;> rfl

/-! ### The account of a session -/

/-- **The account** of a session that came about from `s₀` and `e₀`, with `d` delivered. -/
structure Accounted (s₀ : Session σ) (e₀ : Env ω) (d : Bytes) (s : Session (σ × Intake))
    (e : Env ω) : Prop where
  /-- The plaintext was delivered or waits. -/
  plaintext : d ++ s.inbox = s₀.inbox ++ s.core.2.plaintext
  closed : s.closed = (s₀.closed || s.core.2.closed)
  /-- The stream ends with a receive that brings nothing. -/
  ended : ∃ l, e.heard = e₀.heard ++ l ∧ (s.ended = true ↔ s₀.ended = true ∨ .nothing ∈ l)

namespace Accounted

variable {s₀ : Session σ} {d : Bytes} {s s₁ : Session (σ × Intake)} {e e₁ : Env ω}
  {e₀ : Env ω} {i : Sockets ω κ} {socket : κ} {p : Protocol σ}

theorem congr (h : Accounted s₀ e₀ d s e) (hn : s₁.core.2 = s.core.2) (hi : s₁.inbox = s.inbox)
    (hc : s₁.closed = s.closed) (he : s₁.ended = s.ended) (hh : e₁.heard = e.heard) :
    Accounted s₀ e₀ d s₁ e₁ where
  plaintext := by rw [hi, hn]; exact h.plaintext
  closed := by rw [hc, hn]; exact h.closed
  ended := by rw [hh, he]; exact h.ended

theorem of_heard (h : Accounted s₀ e₀ d s e) (hh : e₁.heard = e.heard) : Accounted s₀ e₀ d s e₁ :=
  h.congr rfl rfl rfl rfl hh

theorem of_flush {r : Except StreamFault Unit} (hf : s.flush (Env.stream i socket) e = (r, s₁, e₁))
    (h : Accounted s₀ e₀ d s e) : Accounted s₀ e₀ d s₁ e₁ := by
  have hs := Session.frame_of_flush hf
  exact h.congr (by rw [hs]) (by rw [hs]) (by rw [hs]) (by rw [hs]) (Session.heard_of_flush hf)

theorem of_readTls {r : Except IoError ℕ}
    (hr : s.readTls p.recording (Env.stream i socket) e = (r, s₁, e₁))
    (h : Accounted s₀ e₀ d s e) : Accounted s₀ e₀ d s₁ e₁ := by
  have hroom (c : σ × Intake) : (p.recording.room c).2.2 = c.2 := rfl
  cases Session.reads_of_readTls hr with
  | shut _ => exact h
  | full hc => exact h.congr (by rw [← hroom s.core, hc]) rfl rfl rfl rfl
  | fails hc hh =>
    obtain ⟨l, hl, he⟩ := h.ended
    refine ⟨?_, ?_, l ++ [.failed _], by rw [hh, hl, List.append_assoc], ?_⟩
    · rw [← hc, hroom]; exact h.plaintext
    · rw [← hc, hroom]; exact h.closed
    · simpa using he
  | @reads core data _ hc hh =>
    obtain ⟨l, hl, he⟩ := h.ended
    refine ⟨?_, ?_, l ++ [_], by rw [hh, hl, List.append_assoc], ?_⟩
    · rw [← hc]; exact h.plaintext
    · rw [← hc]; exact h.closed
    · cases hd : data.isEmpty <;> simp [he]

theorem of_process {r : Except TlsError Unit} (hp : s.process p.recording = (r, s₁))
    (h : Accounted s₀ e₀ d s e) : Accounted s₀ e₀ d s₁ e := by
  obtain ⟨core, outbox, inbox, closed, ended, failure⟩ := s
  cases failure with
  | some x =>
    cases hp
    exact h
  | none =>
    have hw : s₁ = ⟨(p.recording.process core).core, outbox ++ (p.recording.process core).records,
        inbox ++ (p.recording.process core).plaintext,
        closed || (p.recording.process core).closed, ended,
        (p.recording.process core).failure⟩ := by
      unfold Session.process at hp
      dsimp only at hp
      split at hp <;> cases hp <;> rfl
    rw [hw]
    refine ⟨?_, ?_, h.ended⟩
    · have := h.plaintext
      simp only [Protocol.recording, Protocol.annotated] at this ⊢
      rw [← List.append_assoc, this, List.append_assoc]
    · have := h.closed
      simp only [Protocol.recording, Protocol.annotated] at this ⊢
      rw [this, Bool.or_assoc]

theorem of_accepting (data : Bytes) (h : Accounted s₀ e₀ d s e) :
    Accounted s₀ e₀ d (s.accepting p.recording data) e :=
  h.congr rfl rfl rfl rfl rfl

end Accounted

/-! ### Calls -/

variable {s₀ : Session σ} {e₀ : Env ω} {d : Bytes} {socket : κ} {limit fuel : ℕ}

theorem sendOn_accounted {s : Session (σ × Intake)} {e : Env ω} (h : Accounted s₀ e₀ d s e)
    (data : Bytes) :
    Accounted s₀ e₀ d (sendOn b.recording socket data s e).2.1
      (sendOn b.recording socket data s e).2.2 := by
  have ho := sendOn_spec b.recording socket data s e
  generalize sendOn b.recording socket data s e = o at ho
  cases ho with
  | waits hf _ => exact (h.of_flush hf).of_heard (Env.heard_count _ _ _)
  | fails hf _ | refused hf _ => exact (h.of_flush hf).of_heard (heard_faulted _ _ _)
  | takes hf _ hf₂ _ =>
    exact (((h.of_flush hf).of_accepting data).of_flush hf₂).of_heard (Env.heard_count _ _ _)
  | spoilt hf _ hf₂ _ =>
    exact (((h.of_flush hf).of_accepting data).of_flush hf₂).of_heard (heard_faulted _ _ _)

/-- The account after a part of a receive. -/
def Turn.Accounts (s₀ : Session σ) (e₀ : Env ω) (d : Bytes) : Turn ω (σ × Intake) → Prop
  | .done o => Accounted s₀ e₀ (d ++ delivered o.1) o.2.1 o.2.2
  | .again s e => Accounted s₀ e₀ d s e

theorem failed_accounts {f : StreamFault} {s : Session (σ × Intake)} {e : Env ω}
    (h : Accounted s₀ e₀ d s e) : (Turn.failed f s e).Accounts s₀ e₀ d := by
  change Accounted s₀ e₀ (d ++ []) s _
  rw [List.append_nil]
  exact h.of_heard (heard_faulted _ _ _)

theorem afterFlush_accounts {i : Sockets ω κ} {s : Session (σ × Intake)} {e : Env ω}
    (h : Accounted s₀ e₀ d s e) :
    (Turn.afterFlush (s.flush (Env.stream i socket) e)).Accounts s₀ e₀ d := by
  rcases hf : s.flush (Env.stream i socket) e with ⟨f | u, s₁, e₁⟩
  · by_cases hr : f.isRetryable
    · rw [afterFlush_of_retryable hr]
      exact h.of_flush hf
    · rw [afterFlush_of_fatal hr]
      exact failed_accounts (h.of_flush hf)
  · exact h.of_flush hf

theorem turn_accounts {s : Session (σ × Intake)} {e : Env ω} (h : Accounted s₀ e₀ d s e)
    (hl : 0 < limit) : (turn b.recording socket limit s e).Accounts s₀ e₀ d := by
  have ht := turn_spec b.recording socket limit s e
  generalize turn b.recording socket limit s e = q at ht
  cases ht with
  | delivers _ =>
    refine ⟨?_, h.closed, h.ended⟩
    have hd : delivered (.ok (s.inbox.take limit)) = s.inbox.take limit := rfl
    rw [hd, List.append_assoc, List.take_append_drop]
    exact h.plaintext
  | closed hr =>
    obtain ⟨rfl, -, -⟩ := Session.eq_of_read_nil hl hr
    exact failed_accounts h
  | ended _ _ _ => exact failed_accounts h
  | waits _ hr _ =>
    change Accounted s₀ e₀ (d ++ []) _ _
    rw [List.append_nil]
    exact (h.of_readTls hr).of_heard (Env.heard_count _ _ _)
  | fails _ hr _ => exact failed_accounts (h.of_readTls hr)
  | refuses _ hr hp => exact failed_accounts (((h.of_readTls hr).of_process hp).of_flush rfl)
  | works _ hr hp ht =>
    rw [← ht]
    exact afterFlush_accounts ((h.of_readTls hr).of_process hp)

theorem receives_accounted {s : Session (σ × Intake)} {e : Env ω} {o : Received ω (σ × Intake)}
    (h : Accounted s₀ e₀ d s e) (hl : 0 < limit)
    (ho : Receives b.recording socket limit s e o) :
    Accounted s₀ e₀ (d ++ delivered o.1) o.2.1 o.2.2 := by
  induction ho with
  | done ht =>
    have hturn : (turn b.recording socket limit _ _).Accounts s₀ e₀ d := turn_accounts h hl
    rwa [ht] at hturn
  | again ht _ ih =>
    have hturn : (turn b.recording socket limit _ _).Accounts s₀ e₀ d := turn_accounts h hl
    rw [ht] at hturn
    exact ih hturn

theorem recvOn_accounted {s : Session (σ × Intake)} {e : Env ω} {o : Received ω (σ × Intake)}
    (h : Accounted s₀ e₀ d s e) (hl : 0 < limit)
    (ho : recvOn b.recording socket limit fuel s e = some o) :
    Accounted s₀ e₀ (d ++ delivered o.1) o.2.1 o.2.2 := by
  have ho := recvOn_iff.mp ⟨fuel, ho⟩
  have hf : (Turn.afterFlush
      (s.flush (Env.stream b.recording.sockets socket) e)).Accounts s₀ e₀ d := afterFlush_accounts h
  generalize Turn.afterFlush (s.flush (Env.stream b.recording.sockets socket) e) = q at ho hf
  cases q with
  | done o' =>
    obtain rfl := ho
    exact hf
  | again s₁ e₁ => exact receives_accounted hf hl ho

/-- **A series of calls keeps the account.** -/
theorem exchange_accounted {t₀ : Transport σ κ} {l₀ : Live σ κ} (hl : t₀.live = .ok l₀)
    {calls : List Exchange} {u : Transport (σ × Intake) κ} {e : Env ω}
    (h : exchange b.recording calls ([], t₀.recorded, e₀) = some (d, u, e)) :
    ∃ s, u.live = .ok ⟨l₀.socket, s⟩ ∧ Accounted l₀.tls e₀ d s e := by
  have hl' : t₀.recorded.live = .ok ⟨l₀.socket, l₀.tls.mapCore fun c => (c, .empty)⟩ := by
    rw [recorded, live_mapCore, hl]
    rfl
  have h₀ : Accounted l₀.tls e₀ [] (l₀.tls.mapCore fun c => (c, Intake.empty)) e₀ :=
    ⟨(List.append_nil _).symm, (Bool.or_false _).symm, [], (List.append_nil _).symm, by
      simp [Session.mapCore]⟩
  exact exchange_invariant (P := Accounted l₀.tls e₀) (fun data h => sendOn_accounted h data)
    (fun hz ho h => recvOn_accounted h hz ho) hl' h₀ h

/-! ### The end of the plaintext -/

/-- Whether there was a close-notify: before the session `s₀`, or later by the note. -/
def Notified (s₀ : Session σ) (note : Intake) : Prop := s₀.closed = true ∨ note.closed = true

/-- Whether the stream has ended: before the session `s₀`, or later with a receive that brought
nothing. -/
def RanOut (s₀ : Session σ) (heard : List SocketReply) : Prop :=
  s₀.ended = true ∨ .nothing ∈ heard

/-- Whatever is sent and received from here on, every receive fails. -/
def Exhausted (b : Backing ω σ κ) (t : Transport σ κ) (e : Env ω) : Prop :=
  ∀ calls limit fuel d t₁ e₁ r t₂ e₂, exchange b calls ([], t, e) = some (d, t₁, e₁) →
    0 < limit → t₁.recv b limit fuel e₁ = some (r, t₂, e₂) → ∃ f, r = .error (.stream f)

/-- **What the result of a receive says is true.** The receives on a session that was `s₀` have
delivered `d`; the last one heard `call` from the socket, those before it `heard`, and came to `r`
and `t`. -/
structure EndsSoundly (b : Backing ω σ κ) (s₀ : Session σ) (d : Bytes) (note : Intake)
    (heard call : List SocketReply) (r : Except TransportError Bytes) (t : Transport σ κ)
    (e : Env ω) : Prop where
  /-- A count of zero: all plaintext was delivered, the socket was not ready, and nothing has ended
  yet. -/
  empty : r = .ok [] → t.unread = [] ∧ d = s₀.inbox ++ note.plaintext ∧
    (∃ k, call.getLast? = some (.failed k) ∧ k.isNotReady) ∧
    ¬Notified s₀ note ∧ ¬RanOut s₀ (heard ++ call)
  /-- All plaintext was delivered, and there was a close-notify. -/
  peerClosed : r = .error (.stream .peerClosed) → d = s₀.inbox ++ note.plaintext ∧ Notified s₀ note
  /-- All plaintext was delivered, and the socket reported the end without a close-notify. -/
  unexpectedEof : r = .error (.stream .unexpectedEof) → d = s₀.inbox ++ note.plaintext ∧
    ¬Notified s₀ note ∧
    (RanOut s₀ (heard ++ call) ∨ call.getLast? = some (.failed .unexpectedEof))
  /-- The end is final. -/
  final : r = .error (.stream .peerClosed) ∨
    r = .error (.stream .unexpectedEof) ∧ RanOut s₀ (heard ++ call) → Exhausted b t e

theorem exhausted_of_over {t : Transport σ κ} {e : Env ω} {s : Session σ}
    (hl : t.live = .ok ⟨socket, s⟩) (hs : s.Over) : Exhausted b t e := by
  intro calls limit fuel d t₁ e₁ r t₂ e₂ hx hz hr
  obtain ⟨s₁, hl₁, hs₁⟩ := exchange_invariant (P := fun _ s _ => s.Over)
    (fun data h => sendOn_of_over h data _) (fun hz ho h => (recvOn_of_over hz h ho).2) hl hs hx
  obtain ⟨s₂, ho, -⟩ := recv_of_live hl₁ hz hr
  exact (recvOn_of_over hz hs₁ ho).1

theorem getLast?_of_heard {e e' : Env ω} {call l : List SocketReply} {x : SocketReply}
    (hc : e'.heard = e.heard ++ call) (h : e'.heard = e.heard ++ l ++ [x]) :
    call.getLast? = some x := by
  rw [hc, List.append_assoc, List.append_cancel_left_eq] at h
  rw [h, List.getLast?_concat]

/-- **One receive** on a session with an account. -/
theorem endsSoundly_of_recvOn {s s' : Session (σ × Intake)} {e e' : Env ω}
    {r : Except TransportError Bytes} {heard : List SocketReply} {t : Transport σ κ}
    (h : Accounted s₀ e₀ d s e) (hh : e.heard = e₀.heard ++ heard) (hz : 0 < limit)
    (ho : recvOn b.recording socket limit fuel s e = some (r, s', e'))
    (hl : t.live = .ok ⟨socket, s'.mapCore Prod.fst⟩) :
    ∃ call, e'.heard = e.heard ++ call ∧ EndsSoundly b s₀ d s'.core.2 heard call r t e' := by
  obtain ⟨call, hc⟩ := recvOn_keeps (heard_keeps b.recording.sockets socket) ho
  have h' : Accounted s₀ e₀ (d ++ delivered r) s' e' := recvOn_accounted h hz ho
  have hends := recvOn_ends hz ho
  -- the flags of the session, in words
  have hnotified : s'.closed = true ↔ Notified s₀ s'.core.2 := by
    rw [h'.closed, Bool.or_eq_true, Notified]
  have hran : s'.ended = true ↔ RanOut s₀ (heard ++ call) := by
    obtain ⟨l, hl', he⟩ := h'.ended
    rw [hc, hh, List.append_assoc, List.append_cancel_left_eq] at hl'
    rw [he, RanOut, hl']
  have hall (hr : delivered r = []) (hi : s'.inbox = []) :
      d = s₀.inbox ++ s'.core.2.plaintext := by
    rw [← h'.plaintext, hr, hi, List.append_nil, List.append_nil]
  have hunread : t.unread = s'.inbox := by
    rw [unread, (live_eq_ok_iff.mp hl).2]
    rfl
  refine ⟨call, hc, ?_, ?_, ?_, ?_⟩
  · rintro rfl
    obtain ⟨hidle, l, k, he, hk⟩ := hends.empty rfl
    refine ⟨by rw [hunread, hidle.inbox], hall rfl hidle.inbox,
      ⟨k, getLast?_of_heard hc he, hk⟩, ?_, ?_⟩
    · rw [← hnotified, hidle.closed]
      exact Bool.false_ne_true
    · rw [← hran, hidle.ended]
      exact Bool.false_ne_true
  · rintro rfl
    obtain ⟨hi, hcl⟩ := hends.peerClosed rfl
    exact ⟨hall rfl hi, hnotified.mp hcl⟩
  · rintro rfl
    obtain ⟨hi, hcl, he⟩ := hends.unexpectedEof rfl
    refine ⟨hall rfl hi, ?_, ?_⟩
    · rw [← hnotified, hcl]
      exact Bool.false_ne_true
    · rcases he with he | ⟨l, he⟩
      · exact .inl (hran.mp he)
      · exact .inr (getLast?_of_heard hc he)
  · intro hr
    refine exhausted_of_over hl ?_
    rcases hr with rfl | ⟨rfl, hro⟩
    · exact ⟨(hends.peerClosed rfl).1, .inl (hends.peerClosed rfl).2⟩
    · exact ⟨(hends.unexpectedEof rfl).1, .inr (hran.mpr hro)⟩

/-- **How the plaintext of a connection ends.** Whatever was sent and received over a session, and
whatever the socket did: a receive that is given room returns a count of zero only without plaintext
and with a socket that was not ready, it tells of a close-notify only if there was one, of an early
end only if the socket reported it and there was none, either with all plaintext delivered; and after
such an end no receive returns plaintext or a count of zero. -/
theorem recv_ends_soundly {t₀ t t' : Transport σ κ} {l₀ : Live σ κ} (hl : t₀.live = .ok l₀)
    {calls : List Exchange} {e e' : Env ω} {r : Except TransportError Bytes}
    (hx : exchange b calls ([], t₀, e₀) = some (d, t, e)) (hz : 0 < limit)
    (hr : t.recv b limit fuel e = some (r, t', e')) :
    ∃ u heard call,
      exchange b.recording (calls ++ [.recv limit fuel]) ([], t₀.recorded, e₀) =
        some (d ++ delivered r, u, e') ∧ u.mapCore Prod.fst = t' ∧
      e.heard = e₀.heard ++ heard ∧ e'.heard = e.heard ++ call ∧
      EndsSoundly b l₀.tls d u.intake heard call r t' e' := by
  have hp : b.protocol.recording.Projects Prod.fst b.protocol := b.protocol.annotated_projects _
  rw [← mapCore_recorded t₀, exchange_project hp, Option.map_eq_some_iff] at hx
  obtain ⟨⟨d', u₀, e₁⟩, hx, he⟩ := hx
  simp only [Prod.mk.injEq] at he
  obtain ⟨rfl, rfl, rfl⟩ := he
  rw [recv_project hp, Option.map_eq_some_iff] at hr
  obtain ⟨⟨r', u, e₂⟩, hr, he⟩ := hr
  simp only [Prod.mk.injEq] at he
  obtain ⟨rfl, rfl, rfl⟩ := he
  obtain ⟨s, hs, ha⟩ := exchange_accounted hl hx
  obtain ⟨s', ho, rfl⟩ := recv_of_live hs hz hr
  obtain ⟨heard, hh, -⟩ := ha.ended
  have hlive := live_replaced hs s'
  obtain ⟨call, hc, hends⟩ := endsSoundly_of_recvOn ha hh hz ho
    (t := Transport.mapCore Prod.fst { u₀ with session := some ⟨l₀.socket, s'⟩ })
    (by rw [live_mapCore, hlive]; rfl)
  refine ⟨_, heard, call, ?_, rfl, hh, hc, hends⟩
  rw [Backing.recording, exchange_append, hx]
  simp only [Option.bind_some, exchange, Exchange.run, hr, Option.map_some]

/-- Two octets are delivered and then the stream ends: the caller is told of an early end, and
nothing is received any more. -/
theorem recv_ends_soundly_truncated :
    ∃ (t₀ t t' : Transport Bytes Unit) (l₀ : Live Bytes Unit) (e₀ e e' : Env Script)
      (note : Intake), t₀.live = .ok l₀ ∧
      exchange (Script.backing .plain) [.recv 8 4] ([], t₀, e₀) = some ([104, 105], t, e) ∧
      t.recv (Script.backing .plain) 8 4 e = some (.error (.stream .unexpectedEof), t', e') ∧
      note.plaintext = [104, 105] ∧ ¬Notified l₀.tls note ∧
      Exhausted (Script.backing .plain) t' e' := by
  let t₀ : Transport Bytes Unit := ⟨.connected, some ⟨(), .fresh [] []⟩⟩
  let e₀ : Env Script := Script.inEnv ⟨.const (.ok 1), .cons (.ok [104, 105]) (.const (.ok [])), []⟩
  have hrun : (exchange (Script.backing .plain) [.recv 8 4] ([], t₀, e₀)).map Prod.fst =
      some [104, 105] := by decide +kernel
  have hrecv : ((exchange (Script.backing .plain) [.recv 8 4] ([], t₀, e₀)).bind fun x =>
      x.2.1.recv (Script.backing .plain) 8 4 x.2.2).map (fun o => (o.1, o.2.2.heard)) =
      some (.error (.stream .unexpectedEof), [.done, .nothing]) := by decide +kernel
  obtain ⟨⟨d, t, e⟩, hx, rfl⟩ := Option.map_eq_some_iff.mp hrun
  rw [hx, Option.bind_some] at hrecv
  obtain ⟨⟨r, t', e'⟩, hr, he⟩ := Option.map_eq_some_iff.mp hrecv
  simp only [Prod.mk.injEq] at he
  obtain ⟨rfl, hheard⟩ := he
  have hl : t₀.live = .ok ⟨(), .fresh [] []⟩ := rfl
  obtain ⟨u, heard, call, -, -, hh, hc, hends⟩ := recv_ends_soundly hl hx (by decide) hr
  obtain ⟨hd, hn, -⟩ := hends.unexpectedEof rfl
  have hran : RanOut (.fresh ([] : Bytes) []) (heard ++ call) := by
    refine .inr ?_
    have h₀ : e₀.heard = [] := rfl
    rw [hc, hh, h₀, List.nil_append] at hheard
    rw [hheard]
    decide
  exact ⟨t₀, t, t', _, e₀, e, e', u.intake, hl, hx, hr, hd.symm, hn, hends.final (.inr ⟨rfl, hran⟩)⟩

end Transport

end SecureStream
