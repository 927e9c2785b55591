import SecureStream.Proofs.Transport.Turn

/-! # What sending and receiving keep

What every use of a socket, every log event and every change of a metric keep (`Env.Keeps`), a whole
send (`sendOn_keeps`) and a whole receive (`recvOn_keeps`) keep, and a handshake too if the clock
does (`shakeHands_keeps`). Of a live transport a call replaces the session only (`send_of_live`,
`recv_of_live`). -/

namespace SecureStream

variable {ω σ κ : Type}

/-- **What every use of a socket keeps**, and every entry in the journal. -/
structure Env.Keeps (i : Sockets ω κ) (socket : κ) (R : Env ω → Env ω → Prop) : Prop where
  stream : (Env.stream i socket).Keeps R
  log : ∀ events e, R e (e.log events)
  count : ∀ metric by_ e, R e (e.count metric by_)

namespace Transport

variable {b : Backing ω σ κ} {socket : κ} {R : Env ω → Env ω → Prop}

/-! ### Live transports -/

section
variable {t t' : Transport σ κ} {l : Live σ κ} {e e' : Env ω}

theorem live_eq_ok_iff {t : Transport σ κ} {l : Live σ κ} :
    t.live = .ok l ↔ t.state = .connected ∧ t.session = some l := by
  obtain ⟨state, session⟩ := t
  cases state <;> cases session <;> simp [live]

theorem live_replaced (h : t.live = .ok l) (s : Session σ) :
    ({ t with session := some { l with tls := s } } : Transport σ κ).live =
      .ok { l with tls := s } :=
  live_eq_ok_iff.mpr ⟨(live_eq_ok_iff.mp h).1, rfl⟩

theorem send_nil (h : t.live = .ok l) : t.send b [] e = (.ok 0, t, e) := by
  simp [send, h]

theorem send_of_live (h : t.live = .ok l) {data : Bytes} (hd : data ≠ []) :
    t.send b data e =
      ((sendOn b l.socket data l.tls e).1,
        { t with session := some { l with tls := (sendOn b l.socket data l.tls e).2.1 } },
        (sendOn b l.socket data l.tls e).2.2) := by
  simp [send, h, hd]

theorem recv_zero {fuel : ℕ} (h : t.live = .ok l) :
    t.recv b 0 fuel e = some (.ok [], t, e) := by
  simp [recv, h]

theorem recv_of_live {limit fuel : ℕ} {r : Except TransportError Bytes} (h : t.live = .ok l)
    (hl : 0 < limit) (hr : t.recv b limit fuel e = some (r, t', e')) :
    ∃ s, recvOn b l.socket limit fuel l.tls e = some (r, s, e') ∧
      t' = { t with session := some { l with tls := s } } := by
  simp only [recv, h, if_neg (Nat.ne_of_gt hl), Option.map_eq_some_iff] at hr
  obtain ⟨⟨r', s, e''⟩, ho, hp⟩ := hr
  cases hp
  exact ⟨s, ho, rfl⟩

end

/-! ### What calls keep -/

theorem faulted_keeps (h : Env.Keeps b.sockets socket R) (operation : String) (f : StreamFault)
    (e : Env ω) : R e (faulted operation f e) := by
  cases f with
  | peerClosed => exact h.stream.refl e
  | _ => exact h.log _ e

theorem shakeHands_keeps (h : Env.Keeps b.sockets socket R) (hc : b.clock.inEnv.Keeps R)
    {config : TransportConfig} {fuel : ℕ} {s : Session σ} {e e' : Env ω}
    {r : Except TransportError (Session σ)}
    (hs : shakeHands b socket config fuel s e = some (r, e')) : R e e' := by
  unfold shakeHands at hs
  obtain ⟨⟨f | stats, s₁, e₁⟩, hd, ho⟩ := Option.map_eq_some_iff.mp hs
  all_goals
    have hk := Handshake.drive_keeps h.stream hc hd
    cases ho
  · exact h.stream.trans hk (h.log _ _)
  · refine h.stream.trans hk ?_
    split
    · exact h.count _ _ _
    · exact h.stream.trans (h.count _ _ _) (h.count _ _ _)

/-! ### Sending -/

theorem sendOn_keeps (h : Env.Keeps b.sockets socket R) (data : Bytes) (s : Session σ) (e : Env ω) :
    R e (sendOn b socket data s e).2.2 := by
  have flush {s s₁ : Session σ} {e e₁ : Env ω} {r : Except StreamFault Unit}
      (he : s.flush (Env.stream b.sockets socket) e = (r, s₁, e₁)) : R e e₁ := by
    have := Session.flush_keeps h.stream s e
    rwa [he] at this
  have hs := sendOn_spec b socket data s e
  generalize sendOn b socket data s e = o at hs
  cases hs with
  | waits h₁ _ => exact h.stream.trans (flush h₁) (h.count _ _ _)
  | fails h₁ _ => exact h.stream.trans (flush h₁) (faulted_keeps h "send" _ _)
  | @refused x s₁ e₁ h₁ _ =>
    have hf := faulted_keeps h "send" (.ofIoError (.described .invalidData x.message) .send) e₁
    exact h.stream.trans (flush h₁) hf
  | takes h₁ _ h₂ _ =>
    exact h.stream.trans (flush h₁) (h.stream.trans (flush h₂) (h.count _ _ _))
  | spoilt h₁ _ h₂ _ =>
    exact h.stream.trans (flush h₁)
      (h.stream.trans (flush h₂) (faulted_keeps h "send" _ _))

/-! ### Receiving -/

/-- What holds of wherever a part of a receive ends. -/
def Turn.EndsIn (P : Env ω → Prop) : Turn ω σ → Prop
  | .done o => P o.2.2
  | .again _ e => P e

theorem afterFlush_keeps (h : Env.Keeps b.sockets socket R) (s : Session σ) (e : Env ω) :
    (Turn.afterFlush (s.flush (Env.stream b.sockets socket) e)).EndsIn (R e) := by
  have hf := Session.flush_keeps h.stream s e
  rcases he : s.flush (Env.stream b.sockets socket) e with ⟨f | _, s₁, e₁⟩ <;> rw [he] at hf
  · by_cases hr : f.isRetryable
    · rw [afterFlush_of_retryable hr]
      exact hf
    · rw [afterFlush_of_fatal hr]
      exact h.stream.trans hf (faulted_keeps h "recv" f e₁)
  · exact hf

theorem turn_keeps (h : Env.Keeps b.sockets socket R) (limit : ℕ) (s : Session σ) (e : Env ω) :
    (turn b socket limit s e).EndsIn (R e) := by
  have read {s s₁ : Session σ} {r : Except IoError ℕ} {e₁ : Env ω}
      (he : s.readTls b.protocol (Env.stream b.sockets socket) e = (r, s₁, e₁)) : R e e₁ := by
    have := Session.readTls_keeps h.stream b.protocol s e
    rwa [he] at this
  have ht := turn_spec b socket limit s e
  generalize turn b socket limit s e = t at ht
  cases ht with
  | delivers _ => exact h.count _ _ e
  | closed _ => exact faulted_keeps h "recv" .peerClosed e
  | ended _ _ _ => exact faulted_keeps h "recv" .unexpectedEof e
  | waits _ hr _ => exact h.stream.trans (read hr) (h.count _ _ _)
  | fails _ hr _ => exact h.stream.trans (read hr) (faulted_keeps h "recv" _ _)
  | @refuses n s₁ e₁ x s₂ _ hr _ =>
    have hf := Session.flush_keeps h.stream s₂ e₁
    exact h.stream.trans (read hr) (h.stream.trans hf (faulted_keeps h "recv" (.tls x) _))
  | @works n s₁ e₁ s₂ t _ hr _ ht =>
    have hf := afterFlush_keeps h s₂ e₁
    rw [ht] at hf
    cases t <;> exact h.stream.trans (read hr) hf

theorem receives_keeps (h : Env.Keeps b.sockets socket R) {limit : ℕ} {s : Session σ} {e : Env ω}
    {o : Received ω σ} (ho : Receives b socket limit s e o) : R e o.2.2 := by
  induction ho with
  | @done s e o ht =>
    have := turn_keeps h limit s e
    rw [ht] at this
    exact this
  | @again s e s' e' o ht _ ih =>
    have := turn_keeps h limit s e
    rw [ht] at this
    exact h.stream.trans this ih

theorem recvOn_keeps (h : Env.Keeps b.sockets socket R) {limit fuel : ℕ} {s : Session σ}
    {e : Env ω} {o : Received ω σ} (ho : recvOn b socket limit fuel s e = some o) : R e o.2.2 := by
  have hf := afterFlush_keeps h s e
  have ho := recvOn_iff.mp ⟨fuel, ho⟩
  generalize Turn.afterFlush (s.flush (Env.stream b.sockets socket) e) = t at hf ho
  cases t with
  | done o' =>
    obtain rfl := ho
    exact hf
  | again s₁ e₁ => exact h.stream.trans hf (receives_keeps h ho)

end Transport

end SecureStream
