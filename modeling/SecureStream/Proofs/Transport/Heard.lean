import SecureStream.Proofs.Transport.Exchange

/-! # What the socket replied, and how a receive ends

The journal tells what a socket replied to receives (`Env.heard`). Of all that a session does, only
reading octets asks for more (`reads_spec`, `heard_flush`), so the end of a receive can be read off
the last reply and the flags of the session (`CallEnds`, `recvOn_ends`): a count of zero stands for
a socket that was not ready, `peerClosed` for a close-notify, and `unexpectedEof` for the end of the
stream without one.

A session without plaintext whose peer or stream has ended is over (`Session.Over`). It stays over
whatever is sent or received, and gives no plaintext any more. -/

namespace SecureStream

variable {ω σ κ ε : Type}

/-! ### Replies -/

/-- **The replies to receives**, in the order of the calls. -/
def Journal.heard (j : Journal) : List SocketReply :=
  j.calls.toList.filterMap fun c => if c.request = .recv then some c.reply else none

/-- The replies to receives on any socket so far. -/
def Env.heard (e : Env ω) : List SocketReply := e.journal.heard

namespace Env

@[simp] theorem heard_log (events : List LogEvent) (e : Env ω) :
    (e.log events).heard = e.heard := rfl

@[simp] theorem heard_count (metric : Metric) (by_ : Int) (e : Env ω) :
    (e.count metric by_).heard = e.heard := rfl

@[simp] theorem heard_send (i : Sockets ω κ) (socket : κ) (b : Bytes) (e : Env ω) :
    (e.send i socket b).2.heard = e.heard := by
  simp [send, entered, heard, Journal.heard, Journal.call]

theorem heard_recv (i : Sockets ω κ) (socket : κ) (limit : ℕ) (e : Env ω) :
    (e.recv i socket limit).2.heard = e.heard ++
      [replyOf (fun b => if b.isEmpty then .nothing else .done) (e.recv i socket limit).1] := by
  simp [recv, entered, heard, Journal.heard, Journal.call]

@[simp] theorem heard_close (i : Sockets ω κ) (socket : κ) (e : Env ω) :
    (e.close i socket).heard = e.heard := by
  simp [close, heard, Journal.heard, Journal.call]

end Env

namespace Session

theorem heard_flush (i : Sockets ω κ) (socket : κ) (s : Session σ) (e : Env ω) :
    (s.flush (Env.stream i socket) e).2.2.heard = e.heard := by
  have step {s s' : Session σ} {e e' : Env ω} {r : Except IoError ℕ}
      (h : s.writeTls (Env.stream i socket) e = (r, s', e')) : e'.heard = e.heard := by
    unfold writeTls at h
    split at h
    · cases h
      rfl
    · next record rest _ =>
      have hs := Env.heard_send i socket record e
      have he : ((Env.stream i socket).write record e).2 = (e.send i socket record).2 := rfl
      rw [← he] at hs
      split at h
      · next hw =>
        rw [hw] at hs
        cases h
        exact hs
      · next hw =>
        rw [hw] at hs
        split at h <;> cases h <;> exact hs
  fun_induction flush (Env.stream i socket) s e with
  | case1 s e _ x s' e' h => exact step h
  | case2 s e _ s' e' h => exact step h
  | case3 s e _ n s' e' h ih => rw [ih, step h]
  | case4 s e _ => rfl

theorem heard_of_flush {i : Sockets ω κ} {socket : κ} {s s' : Session σ} {e e' : Env ω}
    {r : Except StreamFault Unit} (h : s.flush (Env.stream i socket) e = (r, s', e')) :
    e'.heard = e.heard := by
  have := heard_flush i socket s e
  rwa [h] at this

theorem fault_of_flush {io : ByteStream ε} {s s' : Session σ} {e e' : ε} {f : StreamFault}
    (h : s.flush io e = (.error f, s', e')) : f ≠ .peerClosed ∧ f ≠ .unexpectedEof := by
  fun_induction flush io s e with
  | case1 s e _ x s₁ e₁ _ =>
    cases h
    exact ⟨ofIoError_ne_peerClosed x .send, ofIoError_send_ne_unexpectedEof x⟩
  | case2 s e _ s₁ e₁ _ =>
    cases h
    exact ⟨by simp, by simp⟩
  | case3 s e _ n s₁ e₁ _ ih => exact ih h
  | case4 s e _ => cases h

/-! ### Reading octets -/

/-- **What reading octets can come to.** -/
inductive Reads (p : Protocol σ) (i : Sockets ω κ) (socket : κ) (s : Session σ) (e : Env ω) :
    Except IoError ℕ × Session σ × Env ω → Prop
  /-- The peer has closed; the socket is not asked. -/
  | shut (h : s.closed = true) : Reads p i socket s e (.ok 0, s, e)
  /-- There is no room; the socket is not asked. -/
  | full {core} (h : p.room s.core = (none, core)) : Reads p i socket s e
      (.error (.described .invalidData "message buffer full"), { s with core }, e)
  /-- The socket fails. -/
  | fails {core} {x : IoError} {e₁} (hc : (p.room s.core).2 = core)
      (h : e₁.heard = e.heard ++ [.failed x.kind]) :
      Reads p i socket s e (.error (x.normalised .recv), { s with core }, e₁)
  /-- Octets come, or the stream ends. -/
  | reads {core} {data : Bytes} {e₁} (hc : (p.room s.core).2 = core)
      (h : e₁.heard = e.heard ++ [if data.isEmpty then .nothing else .done]) :
      Reads p i socket s e (.ok data.length,
        { s with core := p.feed core data, ended := s.ended || data.isEmpty }, e₁)

/-- **Reading octets comes to nothing else.** -/
theorem reads_spec (p : Protocol σ) (i : Sockets ω κ) (socket : κ) (s : Session σ) (e : Env ω) :
    Reads p i socket s e (s.readTls p (Env.stream i socket) e) := by
  unfold readTls
  by_cases hs : s.closed = true
  · rw [if_pos hs]
    exact .shut hs
  rw [if_neg hs]
  rcases hr : p.room s.core with ⟨_ | limit, core⟩
  · exact .full hr
  have hh := Env.heard_recv i socket limit e
  have hio : (Env.stream i socket).read limit e =
      ((e.recv i socket limit).1.mapError (·.normalised .recv), (e.recv i socket limit).2) := rfl
  simp only [hio]
  rcases he : e.recv i socket limit with ⟨x | data, e₁⟩ <;> rw [he] at hh
  · exact .fails (by rw [hr]) hh
  · exact .reads (by rw [hr]) hh

theorem reads_of_readTls {p : Protocol σ} {i : Sockets ω κ} {socket : κ} {s s₁ : Session σ}
    {e e₁ : Env ω} {r : Except IoError ℕ}
    (h : s.readTls p (Env.stream i socket) e = (r, s₁, e₁)) : Reads p i socket s e (r, s₁, e₁) := by
  rw [← h]
  exact reads_spec p i socket s e

/-! ### Sessions that are over -/

/-- **No plaintext is left, and none will come.** -/
structure Over (s : Session σ) : Prop where
  inbox : s.inbox = []
  ended : s.closed = true ∨ s.ended = true

theorem Over.of_flush {io : ByteStream ε} {s s' : Session σ} {e e' : ε}
    {r : Except StreamFault Unit} (h : s.flush io e = (r, s', e')) (hs : s.Over) : s'.Over := by
  rw [frame_of_flush h]
  exact ⟨hs.inbox, hs.ended⟩

theorem Over.not_idle {s : Session σ} (hs : s.Over) : ¬Transport.Idle s := by
  rintro ⟨-, hc, he⟩
  rcases hs.ended with h | h
  · rw [hc] at h
    cases h
  · rw [he] at h
    cases h

theorem eq_of_read_nil {s s₁ : Session σ} {limit : ℕ} (hl : 0 < limit)
    (h : s.read limit = (.ok [], s₁)) : s₁ = s ∧ s.inbox = [] ∧ s.closed = true := by
  unfold read at h
  split at h
  · next b rest _ =>
    rw [Prod.mk.injEq, Except.ok.injEq, List.take_eq_nil_iff] at h
    rcases h.1 with h | h
    · omega
    · cases h
  · next hi =>
    split at h
    · next hc =>
      cases h
      exact ⟨rfl, hi, hc⟩
    · split at h <;> cases h

end Session

namespace Transport

variable {b : Backing ω σ κ} {socket : κ} {limit fuel : ℕ}

@[simp] theorem heard_faulted (operation : String) (f : StreamFault) (e : Env ω) :
    (faulted operation f e).heard = e.heard := by
  cases f <;> rfl

/-! ### Where a receive ends -/

/-- **How a receive that began in `e` ended.** -/
structure CallEnds (e : Env ω) (o : Received ω σ) : Prop where
  /-- A count of zero: there is no plaintext, and the socket was not ready. -/
  empty : o.1 = .ok [] →
    Idle o.2.1 ∧ ∃ l k, o.2.2.heard = e.heard ++ l ++ [.failed k] ∧ k.isNotReady
  /-- The peer has closed, and there is no plaintext. -/
  peerClosed : o.1 = .error (.stream .peerClosed) → o.2.1.inbox = [] ∧ o.2.1.closed = true
  /-- The stream has ended without a close-notify, and there is no plaintext. -/
  unexpectedEof : o.1 = .error (.stream .unexpectedEof) →
    o.2.1.inbox = [] ∧ o.2.1.closed = false ∧
      (o.2.1.ended = true ∨ ∃ l, o.2.2.heard = e.heard ++ l ++ [.failed .unexpectedEof])

theorem CallEnds.of_ne {e : Env ω} {o : Received ω σ} (h₁ : o.1 ≠ .ok [])
    (h₂ : o.1 ≠ .error (.stream .peerClosed)) (h₃ : o.1 ≠ .error (.stream .unexpectedEof)) :
    CallEnds e o :=
  ⟨fun h => absurd h h₁, fun h => absurd h h₂, fun h => absurd h h₃⟩

theorem CallEnds.of_heard {e e₁ : Env ω} {o : Received ω σ} {l : List SocketReply}
    (hh : e₁.heard = e.heard ++ l) (h : CallEnds e₁ o) : CallEnds e o where
  empty ho := by
    obtain ⟨hs, l', k, he, hk⟩ := h.empty ho
    exact ⟨hs, l ++ l', k, by rw [he, hh, List.append_assoc e.heard], hk⟩
  peerClosed := h.peerClosed
  unexpectedEof ho := by
    obtain ⟨hi, hc, he | ⟨l', he⟩⟩ := h.unexpectedEof ho
    · exact ⟨hi, hc, .inl he⟩
    · exact ⟨hi, hc, .inr ⟨l ++ l', by rw [he, hh, List.append_assoc e.heard]⟩⟩

theorem callEnds_of_afterFlush {s : Session σ} {e e₀ : Env ω} {o : Received ω σ}
    (h : Turn.afterFlush (s.flush (Env.stream b.sockets socket) e) = .done o) : CallEnds e₀ o := by
  rcases hf : s.flush (Env.stream b.sockets socket) e with ⟨f | u, s₁, e₁⟩ <;> rw [hf] at h
  · obtain ⟨hp, hu⟩ := Session.fault_of_flush hf
    by_cases hr : f.isRetryable
    · rw [afterFlush_of_retryable hr] at h
      cases h
    · rw [afterFlush_of_fatal hr] at h
      cases h
      exact .of_ne (by simp) (by simpa using hp) (by simpa using hu)
  · cases h

theorem turn_ends (hl : 0 < limit) {s : Session σ} {e : Env ω} {o : Received ω σ}
    (h : turn b socket limit s e = .done o) : CallEnds e o := by
  have ht := turn_spec b socket limit s e
  rw [h] at ht
  generalize hq : Turn.done o = q at ht
  cases ht with
  | delivers hi =>
    cases hq
    exact .of_ne (by simpa using hi) (by simp) (by simp)
  | closed hr =>
    cases hq
    obtain ⟨rfl, hi, hc⟩ := Session.eq_of_read_nil hl hr
    exact ⟨by simp, fun _ => ⟨hi, hc⟩, by simp⟩
  | ended hi hc he =>
    cases hq
    exact ⟨by simp, by simp, fun _ => ⟨hi, hc, .inl he⟩⟩
  | waits hs hr hx =>
    cases hq
    refine ⟨fun _ => ?_, by simp, by simp⟩
    cases Session.reads_of_readTls hr with
    | full _ => rw [isRetryable_ofIoError] at hx; cases hx
    | fails _ hh =>
      rw [isRetryable_normalised] at hx
      exact ⟨⟨hs.inbox, hs.closed, hs.ended⟩, [], _, by simpa using hh, hx⟩
  | fails hs hr hx =>
    cases hq
    refine ⟨by simp, fun ho => ?_, fun ho => ?_⟩
    · simp only [Except.error.injEq, TransportError.stream.injEq] at ho
      exact absurd ho (ofIoError_ne_peerClosed _ _)
    · simp only [Except.error.injEq, TransportError.stream.injEq] at ho
      cases Session.reads_of_readTls hr with
      | full _ =>
        rw [ofIoError_recv_eq_unexpectedEof_iff] at ho
        cases ho
      | fails _ hh =>
        rw [ofIoError_normalised_eq_unexpectedEof_iff] at ho
        rw [ho] at hh
        exact ⟨hs.inbox, hs.closed, .inr ⟨[], by simpa using hh⟩⟩
  | refuses hs hr hp =>
    cases hq
    exact .of_ne (by simp) (by simp) (by simp)
  | works hs hr hp ht =>
    subst hq
    exact callEnds_of_afterFlush ht

theorem heard_of_again {s s₁ : Session σ} {e e₁ : Env ω}
    (h : turn b socket limit s e = .again s₁ e₁) : ∃ l, e₁.heard = e.heard ++ l := by
  have ht := turn_spec b socket limit s e
  rw [h] at ht
  generalize hq : Turn.again s₁ e₁ = q at ht
  cases ht with
  | @works n s₂ e₂ s₃ t hs hr hp ht =>
    subst hq
    rcases hf : s₃.flush (Env.stream b.sockets socket) e₂ with ⟨r, s₄, e₄⟩
    rw [hf, afterFlush_eq_again_iff] at ht
    obtain ⟨-, -, rfl⟩ := ht
    rw [Session.heard_of_flush hf]
    cases Session.reads_of_readTls hr with
    | shut hc => rw [hs.closed] at hc; cases hc
    | reads _ hh => exact ⟨_, hh⟩
  | _ => cases hq

theorem receives_ends (hl : 0 < limit) {s : Session σ} {e : Env ω} {o : Received ω σ}
    (h : Receives b socket limit s e o) : CallEnds e o := by
  induction h with
  | done h => exact turn_ends hl h
  | again h _ ih =>
    obtain ⟨l, hh⟩ := heard_of_again h
    exact ih.of_heard hh

/-- **The end of a receive.** -/
theorem recvOn_ends (hl : 0 < limit) {s : Session σ} {e : Env ω} {o : Received ω σ}
    (h : recvOn b socket limit fuel s e = some o) : CallEnds e o := by
  have ho := recvOn_iff.mp ⟨fuel, h⟩
  rcases hf : s.flush (Env.stream b.sockets socket) e with ⟨r, s₁, e₁⟩
  rw [hf] at ho
  cases ht : Turn.afterFlush (r, s₁, e₁) with
  | done o' =>
    rw [ht] at ho
    obtain rfl := ho
    exact callEnds_of_afterFlush (b := b) (by rw [hf]; exact ht)
  | again s₂ e₂ =>
    rw [ht] at ho
    obtain ⟨-, rfl, rfl⟩ := afterFlush_eq_again_iff.mp ht
    refine (receives_ends hl ho).of_heard (l := []) ?_
    rw [List.append_nil, Session.heard_of_flush hf]

theorem heard_keeps (i : Sockets ω κ) (socket : κ) :
    Env.Keeps i socket fun e e' => ∃ l, e'.heard = e.heard ++ l where
  stream := {
    refl := fun _ => ⟨[], (List.append_nil _).symm⟩
    trans := by
      rintro e f g ⟨l, hl⟩ ⟨l', hl'⟩
      exact ⟨l ++ l', by rw [hl', hl, List.append_assoc]⟩
    read := fun limit e => ⟨_, Env.heard_recv i socket limit e⟩
    write := fun b e => ⟨[], (Env.heard_send i socket b e).trans (List.append_nil _).symm⟩ }
  log _ _ := ⟨[], (List.append_nil _).symm⟩
  count _ _ _ := ⟨[], (List.append_nil _).symm⟩

/-! ### Receives of a session that is over -/

theorem turn_of_over (hl : 0 < limit) {s : Session σ} (hs : s.Over) (e : Env ω) :
    ∃ f e', turn b socket limit s e = .done (.error (.stream f), s, e') := by
  have ht := turn_spec b socket limit s e
  generalize turn b socket limit s e = q at ht
  cases ht with
  | delivers hi =>
    rw [hs.inbox, List.take_nil] at hi
    exact absurd rfl hi
  | closed hr =>
    obtain ⟨rfl, -, -⟩ := Session.eq_of_read_nil hl hr
    exact ⟨_, _, rfl⟩
  | ended _ _ _ => exact ⟨_, _, rfl⟩
  | waits hi _ _ | fails hi _ _ | refuses hi _ _ | works hi _ _ _ => exact absurd hi hs.not_idle

/-- **A receive of a session that is over** fails, and the session stays over. -/
theorem recvOn_of_over (hl : 0 < limit) {s : Session σ} (hs : s.Over) {e : Env ω}
    {o : Received ω σ} (h : recvOn b socket limit fuel s e = some o) :
    (∃ f, o.1 = .error (.stream f)) ∧ o.2.1.Over := by
  have ho := recvOn_iff.mp ⟨fuel, h⟩
  rcases hf : s.flush (Env.stream b.sockets socket) e with ⟨r, s₁, e₁⟩
  rw [hf] at ho
  have hs₁ := hs.of_flush hf
  cases ht : Turn.afterFlush (r, s₁, e₁) with
  | done o' =>
    rw [ht] at ho
    obtain rfl := ho
    cases r with
    | ok u => cases ht
    | error f =>
      by_cases hr : f.isRetryable
      · rw [afterFlush_of_retryable hr] at ht
        cases ht
      · rw [afterFlush_of_fatal hr] at ht
        cases ht
        exact ⟨⟨f, rfl⟩, hs₁⟩
  | again s₂ e₂ =>
    rw [ht] at ho
    obtain ⟨-, rfl, rfl⟩ := afterFlush_eq_again_iff.mp ht
    obtain ⟨f, e', hturn⟩ : ∃ f e', turn b socket limit _ e₁ = .done (.error (.stream f), _, e') :=
      turn_of_over hl hs₁ e₁
    have ho' := receives_iff_turn.mp ho
    rw [hturn] at ho'
    obtain rfl := ho'
    exact ⟨⟨f, rfl⟩, hs₁⟩

theorem sendOn_of_over {s : Session σ} (hs : s.Over) (data : Bytes) (e : Env ω) :
    (sendOn b socket data s e).2.1.Over := by
  have ho := sendOn_spec b socket data s e
  generalize sendOn b socket data s e = o at ho
  cases ho with
  | waits h _ | fails h _ | refused h _ => exact hs.of_flush h
  | takes h _ h₂ _ | spoilt h _ h₂ _ =>
    have hs₁ := hs.of_flush h
    exact Session.Over.of_flush h₂ ⟨hs₁.inbox, hs₁.ended⟩

end Transport

end SecureStream
