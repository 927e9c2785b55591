import SecureStream.Proofs.Transport.Send

/-! # A receive, turn by turn

A receive flushes once and then takes turns: a turn looks for plaintext, reads octets, works on them
and flushes. `turn` is one turn, `Receives` the run of turns up to the one that ends the call.
`receives_iff` says that these are the outcomes of `recvLoop`, `recvOn_iff` those of the call;
`Receives.unique` that there is one outcome at most. -/

namespace SecureStream.Transport

variable {ω σ κ : Type}

/-- What a receive comes to. -/
abbrev Received (ω σ : Type) := Except TransportError Bytes × Session σ × Env ω

/-- **What a part of a receive comes to.** -/
inductive Turn (ω σ : Type)
  /-- The call is over. -/
  | done (o : Received ω σ)
  /-- Another look for plaintext. -/
  | again (s : Session σ) (e : Env ω)

/-- The call ends with a fault. -/
def Turn.failed (f : StreamFault) (s : Session σ) (e : Env ω) : Turn ω σ :=
  .done (.error (.stream f), s, faulted "recv" f e)

/-- **After a flush**: a fault that asks for another try is passed over. -/
def Turn.afterFlush : Except StreamFault Unit × Session σ × Env ω → Turn ω σ
  | (.ok (), s, e) => .again s e
  | (.error f, s, e) => if f.isRetryable then .again s e else .failed f s e

@[simp] theorem afterFlush_ok (u : Unit) (s : Session σ) (e : Env ω) :
    Turn.afterFlush (.ok u, s, e) = .again s e := rfl

theorem afterFlush_of_retryable {f : StreamFault} (h : f.isRetryable) (s : Session σ) (e : Env ω) :
    Turn.afterFlush (.error f, s, e) = .again s e := if_pos h

theorem afterFlush_of_fatal {f : StreamFault} (h : ¬f.isRetryable) (s : Session σ) (e : Env ω) :
    Turn.afterFlush (.error f, s, e) = .failed f s e := if_neg h

theorem afterFlush_eq_again_iff {r : Except StreamFault Unit} {s s' : Session σ} {e e' : Env ω} :
    Turn.afterFlush (r, s, e) = .again s' e' ↔
      (∀ f, r = .error f → f.isRetryable) ∧ s = s' ∧ e = e' := by
  cases r with
  | ok u => simp
  | error f =>
    by_cases hf : f.isRetryable
    · simp [afterFlush_of_retryable hf, hf]
    · simp [afterFlush_of_fatal hf, Turn.failed, hf]

theorem error_of_afterFlush {r : Except StreamFault Unit × Session σ × Env ω} {o : Received ω σ}
    (h : Turn.afterFlush r = .done o) : ∃ f, o.1 = .error f := by
  obtain ⟨f | u, s, e⟩ := r
  · by_cases hf : f.isRetryable
    · rw [afterFlush_of_retryable hf] at h
      cases h
    · rw [afterFlush_of_fatal hf] at h
      cases h
      exact ⟨_, rfl⟩
  · cases h

/-- **One turn.** -/
def turn (b : Backing ω σ κ) (socket : κ) (limit : ℕ) (s : Session σ) (e : Env ω) : Turn ω σ :=
  match s.read limit with
  | (.ok [], s) => .failed .peerClosed s e
  | (.ok (x :: rest), s) =>
    .done (.ok (x :: rest), s, e.count .bytesReceived (x :: rest).length)
  | (.error x, s) =>
    if x.kind ≠ .wouldBlock then .failed (.ofIoError x .recv) s e
    else
      match s.readTls b.protocol (Env.stream b.sockets socket) e with
      | (.error x, s, e) =>
        if (StreamFault.ofIoError x .recv).isRetryable then
          .done (.ok [], s, e.count (.retries "recv") 1)
        else .failed (.ofIoError x .recv) s e
      | (.ok _, s, e) =>
        match s.process b.protocol with
        | (.error x, s) =>
          match s.flush (Env.stream b.sockets socket) e with
          | (_, s, e) => .failed (.tls x) s e
        | (.ok (), s) => .afterFlush (s.flush (Env.stream b.sockets socket) e)

/-- Without plaintext, and more may come. -/
structure Idle (s : Session σ) : Prop where
  inbox : s.inbox = []
  closed : s.closed = false
  ended : s.ended = false

theorem Idle.read {s : Session σ} (h : Idle s) (limit : ℕ) :
    s.read limit = (.error (.plain .wouldBlock), s) := by
  simp [Session.read, h.inbox, h.closed, h.ended]

/-- **What a turn can come to.** -/
inductive TurnOn (b : Backing ω σ κ) (socket : κ) (limit : ℕ) (s : Session σ) (e : Env ω) :
    Turn ω σ → Prop
  /-- There is plaintext. -/
  | delivers (h : s.inbox.take limit ≠ []) : TurnOn b socket limit s e
      (.done (.ok (s.inbox.take limit), { s with inbox := s.inbox.drop limit },
        e.count .bytesReceived (s.inbox.take limit).length))
  /-- The peer has closed, or nothing was asked for. -/
  | closed {s₁} (h : s.read limit = (.ok [], s₁)) :
      TurnOn b socket limit s e (.failed .peerClosed s₁ e)
  /-- The stream has ended too early. -/
  | ended (hi : s.inbox = []) (hc : s.closed = false) (he : s.ended = true) :
      TurnOn b socket limit s e (.failed .unexpectedEof s e)
  /-- The socket is not ready. -/
  | waits {x s₁ e₁} (hs : Idle s)
      (h : s.readTls b.protocol (Env.stream b.sockets socket) e = (.error x, s₁, e₁))
      (hx : (StreamFault.ofIoError x .recv).isRetryable) :
      TurnOn b socket limit s e (.done (.ok [], s₁, e₁.count (.retries "recv") 1))
  /-- The socket fails. -/
  | fails {x s₁ e₁} (hs : Idle s)
      (h : s.readTls b.protocol (Env.stream b.sockets socket) e = (.error x, s₁, e₁))
      (hx : ¬(StreamFault.ofIoError x .recv).isRetryable) :
      TurnOn b socket limit s e (.failed (.ofIoError x .recv) s₁ e₁)
  /-- The records are not sound. -/
  | refuses {n s₁ e₁ x s₂} (hs : Idle s)
      (h : s.readTls b.protocol (Env.stream b.sockets socket) e = (.ok n, s₁, e₁))
      (hp : s₁.process b.protocol = (.error x, s₂)) :
      TurnOn b socket limit s e
        (.failed (.tls x) (s₂.flush (Env.stream b.sockets socket) e₁).2.1
          (s₂.flush (Env.stream b.sockets socket) e₁).2.2)
  /-- The records are worked on, and what they ask to be sent is flushed. -/
  | works {n s₁ e₁ s₂ t} (hs : Idle s)
      (h : s.readTls b.protocol (Env.stream b.sockets socket) e = (.ok n, s₁, e₁))
      (hp : s₁.process b.protocol = (.ok (), s₂))
      (ht : .afterFlush (s₂.flush (Env.stream b.sockets socket) e₁) = t) :
      TurnOn b socket limit s e t

/-- **A turn comes to nothing else.** -/
theorem turn_spec (b : Backing ω σ κ) (socket : κ) (limit : ℕ) (s : Session σ) (e : Env ω) :
    TurnOn b socket limit s e (turn b socket limit s e) := by
  by_cases hi : s.inbox = []
  · by_cases hc : s.closed = false
    · by_cases he : s.ended = false
      · have hs : Idle s := ⟨hi, hc, he⟩
        unfold turn
        simp only [hs.read, IoError.kind, ne_eq, not_true_eq_false, if_false]
        rcases h : s.readTls b.protocol (Env.stream b.sockets socket) e with ⟨x | n, s₁, e₁⟩
        · by_cases hx : (StreamFault.ofIoError x .recv).isRetryable
          · simp only [if_pos hx]
            exact .waits hs h hx
          · simp only [if_neg hx]
            exact .fails hs h hx
        · rcases hp : s₁.process b.protocol with ⟨x | u, s₂⟩
          · simp only [hp]
            exact .refuses hs h hp
          · simp only [hp]
            exact .works hs h hp rfl
      · rw [Bool.not_eq_false] at he
        have hr : s.read limit = (.error (.plain .unexpectedEof), s) := by
          simp [Session.read, hi, hc, he]
        unfold turn
        simp only [hr]
        exact .ended hi hc he
    · rw [Bool.not_eq_false] at hc
      have hr : s.read limit = (.ok [], s) := by simp [Session.read, hi, hc]
      unfold turn
      simp only [hr]
      exact .closed hr
  · have hr : s.read limit =
        (.ok (s.inbox.take limit), { s with inbox := s.inbox.drop limit }) := by
      cases hs : s.inbox with
      | nil => exact absurd hs hi
      | cons x rest => simp [Session.read, hs]
    cases ht : s.inbox.take limit with
    | nil =>
      rw [ht] at hr
      unfold turn
      simp only [hr]
      exact .closed hr
    | cons x rest =>
      have hd : TurnOn b socket limit s e _ := .delivers (by simp [ht])
      unfold turn
      simp only [hr, ht] at hd ⊢
      exact hd

section
variable {b : Backing ω σ κ} {socket : κ} {limit : ℕ} {s s₁ s₂ : Session σ} {e e₁ : Env ω}

theorem turn_of_delivers (h : s.inbox.take limit ≠ []) :
    turn b socket limit s e =
      .done (.ok (s.inbox.take limit), { s with inbox := s.inbox.drop limit },
        e.count .bytesReceived (s.inbox.take limit).length) := by
  cases hl : limit with
  | zero => simp [hl] at h
  | succ k =>
    cases hs : s.inbox with
    | nil => simp [hs] at h
    | cons x rest => simp [turn, Session.read, hs]

theorem turn_of_waits {x : IoError} (hs : Idle s)
    (h : s.readTls b.protocol (Env.stream b.sockets socket) e = (.error x, s₁, e₁))
    (hx : (StreamFault.ofIoError x .recv).isRetryable) :
    turn b socket limit s e = .done (.ok [], s₁, e₁.count (.retries "recv") 1) := by
  unfold turn
  simp only [hs.read, h, IoError.kind, ne_eq, not_true_eq_false, if_false, if_pos hx]

theorem turn_of_fails {x : IoError} (hs : Idle s)
    (h : s.readTls b.protocol (Env.stream b.sockets socket) e = (.error x, s₁, e₁))
    (hx : ¬(StreamFault.ofIoError x .recv).isRetryable) :
    turn b socket limit s e = .failed (.ofIoError x .recv) s₁ e₁ := by
  unfold turn
  simp only [hs.read, h, IoError.kind, ne_eq, not_true_eq_false, if_false, if_neg hx]

theorem turn_of_works {n : ℕ} (hs : Idle s)
    (h : s.readTls b.protocol (Env.stream b.sockets socket) e = (.ok n, s₁, e₁))
    (hp : s₁.process b.protocol = (.ok (), s₂)) :
    turn b socket limit s e = .afterFlush (s₂.flush (Env.stream b.sockets socket) e₁) := by
  unfold turn
  simp only [hs.read, h, hp, IoError.kind, ne_eq, not_true_eq_false, if_false]

theorem turn_of_refuses {n : ℕ} {x : TlsError} (hs : Idle s)
    (h : s.readTls b.protocol (Env.stream b.sockets socket) e = (.ok n, s₁, e₁))
    (hp : s₁.process b.protocol = (.error x, s₂)) :
    turn b socket limit s e =
      .failed (.tls x) (s₂.flush (Env.stream b.sockets socket) e₁).2.1
        (s₂.flush (Env.stream b.sockets socket) e₁).2.2 := by
  unfold turn
  simp only [hs.read, h, hp, IoError.kind, ne_eq, not_true_eq_false, if_false]

end

/-- **Turns up to the end of the call.** -/
inductive Receives (b : Backing ω σ κ) (socket : κ) (limit : ℕ) :
    Session σ → Env ω → Received ω σ → Prop
  | done {s e o} (h : turn b socket limit s e = .done o) : Receives b socket limit s e o
  | again {s e s' e' o} (h : turn b socket limit s e = .again s' e')
      (rest : Receives b socket limit s' e' o) : Receives b socket limit s e o

/-- What the call comes to when a part of it came to this. -/
def Turn.EndsAs (b : Backing ω σ κ) (socket : κ) (limit : ℕ) (o : Received ω σ) : Turn ω σ → Prop
  | .done o' => o' = o
  | .again s e => Receives b socket limit s e o

variable {b : Backing ω σ κ} {socket : κ} {limit : ℕ}

theorem receives_iff_turn {s : Session σ} {e : Env ω} {o : Received ω σ} :
    Receives b socket limit s e o ↔ (turn b socket limit s e).EndsAs b socket limit o := by
  constructor
  · intro h
    cases h with
    | done h => rw [h]; rfl
    | again h rest => rw [h]; exact rest
  · intro h
    cases ht : turn b socket limit s e with
    | done o' => rw [ht] at h; subst h; exact .done ht
    | again s' e' => rw [ht] at h; exact .again ht h

theorem recvLoop_succ_eq (fuel : ℕ) (s : Session σ) (e : Env ω) :
    recvLoop b socket limit (fuel + 1) s e =
      match turn b socket limit s e with
      | .done o => some o
      | .again s e => recvLoop b socket limit fuel s e := by
  rw [recvLoop, turn]
  dsimp only
  rcases hp : s.read limit with ⟨x | _ | ⟨c, rest⟩, s₁⟩
  · by_cases hk : x.kind ≠ .wouldBlock
    · simp only [if_pos hk]
      rfl
    simp only [if_neg hk]
    rcases ht : s₁.readTls b.protocol (Env.stream b.sockets socket) e with ⟨x' | n, s₂, e₂⟩
    · by_cases hr : (StreamFault.ofIoError x' .recv).isRetryable
      · simp only [if_pos hr]
      · simp only [if_neg hr]
        rfl
    rcases hw : s₂.process b.protocol with ⟨x' | _, s₃⟩
    · simp only [hw]
      rfl
    rcases hf : s₃.flush (Env.stream b.sockets socket) e₂ with ⟨f | _, s₄, e₄⟩
    · by_cases hr : f.isRetryable
      · simp only [hw, hf, afterFlush_of_retryable hr, if_pos hr]
      · simp only [hw, hf, afterFlush_of_fatal hr, if_neg hr]
        rfl
    · simp only [hw, hf, afterFlush_ok]
  · rfl
  · rfl

theorem recvLoop_le {fuel fuel' : ℕ} {s : Session σ} {e : Env ω} {o : Received ω σ}
    (h : recvLoop b socket limit fuel s e = some o) (hle : fuel ≤ fuel') :
    recvLoop b socket limit fuel' s e = some o := by
  induction hle with
  | refl => exact h
  | step _ ih => exact recvLoop_succ ih

/-- **The runs of turns are the receives that end.** -/
theorem receives_iff {s : Session σ} {e : Env ω} {o : Received ω σ} :
    Receives b socket limit s e o ↔ ∃ fuel, recvLoop b socket limit fuel s e = some o := by
  constructor
  · intro h
    induction h with
    | done h => exact ⟨1, by rw [recvLoop_succ_eq, h]⟩
    | again h _ ih =>
      obtain ⟨fuel, ih⟩ := ih
      exact ⟨fuel + 1, by rw [recvLoop_succ_eq, h]; exact ih⟩
  · rintro ⟨fuel, h⟩
    induction fuel generalizing s e with
    | zero => simp [recvLoop] at h
    | succ fuel ih =>
      rw [recvLoop_succ_eq] at h
      split at h
      · next o' ht => exact .done (by rw [ht, Option.some.inj h])
      · next s' e' ht => exact .again ht (ih h)

theorem Receives.unique {s : Session σ} {e : Env ω} {o o' : Received ω σ}
    (h : Receives b socket limit s e o) (h' : Receives b socket limit s e o') : o = o' := by
  obtain ⟨n, hn⟩ := receives_iff.mp h
  obtain ⟨m, hm⟩ := receives_iff.mp h'
  have hn' := recvLoop_le hn (Nat.le_max_left n m)
  have hm' := recvLoop_le hm (Nat.le_max_right n m)
  exact Option.some.inj (hn'.symm.trans hm')

theorem recvOn_eq (fuel : ℕ) (s : Session σ) (e : Env ω) :
    recvOn b socket limit fuel s e =
      match Turn.afterFlush (s.flush (Env.stream b.sockets socket) e) with
      | .done o => some o
      | .again s e => recvLoop b socket limit fuel s e := by
  unfold recvOn
  rcases s.flush (Env.stream b.sockets socket) e with ⟨f | _, s₁, e₁⟩
  · by_cases hr : f.isRetryable
    · simp only [afterFlush_of_retryable hr, if_pos hr]
    · simp only [afterFlush_of_fatal hr, if_neg hr]; rfl
  · rfl

/-- **The outcomes of a receive**: the first flush ends it, or the turns after it do. -/
theorem recvOn_iff {s : Session σ} {e : Env ω} {o : Received ω σ} :
    (∃ fuel, recvOn b socket limit fuel s e = some o) ↔
      (Turn.afterFlush (s.flush (Env.stream b.sockets socket) e)).EndsAs b socket limit o := by
  simp only [recvOn_eq]
  cases Turn.afterFlush (s.flush (Env.stream b.sockets socket) e) with
  | done o' => simp [Turn.EndsAs]
  | again s₁ e₁ => exact receives_iff.symm

theorem recvOn_unique {fuel fuel' : ℕ} {s : Session σ} {e : Env ω} {o o' : Received ω σ}
    (h : recvOn b socket limit fuel s e = some o) (h' : recvOn b socket limit fuel' s e = some o') :
    o = o' := by
  have ho := recvOn_iff.mp ⟨fuel, h⟩
  have ho' := recvOn_iff.mp ⟨fuel', h'⟩
  generalize Turn.afterFlush (s.flush (Env.stream b.sockets socket) e) = t at ho ho'
  cases t with
  | done q => exact ho.symm.trans ho'
  | again s₁ e₁ => exact Receives.unique ho ho'

end SecureStream.Transport
