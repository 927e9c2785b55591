import SecureStream.Proofs.Transport.Delivery
import SecureStream.Proofs.Transport.Exchange

/-! # What the diagnostics tell of a socket error

A stream brings an error of the socket to another kind if it asks for another try or tells that the
peer is gone. The fault that is made of it is that of the error itself, over another cause
(`ofIoError_normalised`): it is repeated alike and it reads the same. The diagnostics are kept as
well, unless the error is `Masked`: then the new kind stands in their place of a number, or of
another kind (`diagnostics_normalised_iff`).

A send meets an error of the socket when it flushes (`SendMeets`), a receive when it flushes or
reads (`RecvMeets`). `failures_diagnosed_iff`: the call ends with the fault, and what it logs is the
concrete cause exactly if the error is not masked. -/

namespace SecureStream

variable {ω σ κ ε : Type}

/-! ### Errors of another kind -/

namespace IoError

theorem not_isPeerGone_of_isNotReady {k : Kind} (h : k.isNotReady) : ¬k.isPeerGone := by
  cases k <;> simp_all [Kind.isNotReady, Kind.isPeerGone]

theorem normalised_of_isNotReady {x : IoError} (h : x.kind.isNotReady) (d : Direction) :
    x.normalised d = .wrapped .wouldBlock x := by
  cases d <;> simp [normalised, SocketSignal.ofKind, h]

theorem normalised_of_isPeerGone {x : IoError} (h : x.kind.isPeerGone) (d : Direction) :
    x.normalised d = .wrapped .connectionReset x := by
  have hn : ¬x.kind.isNotReady := fun hn => not_isPeerGone_of_isNotReady hn h
  cases d <;> simp [normalised, SocketSignal.ofKind, hn, h]

theorem normalised_of_other {x : IoError} (hn : ¬x.kind.isNotReady) (hg : ¬x.kind.isPeerGone)
    (d : Direction) : x.normalised d = x := by
  cases d <;> simp [normalised, SocketSignal.ofKind, hn, hg]

/-- **A reset would hide what the error tells**: the number of the operating system, or another kind
of a peer that is gone. -/
def Masked (x : IoError) : Prop :=
  x.kind.isPeerGone ∧ (x.systemCode? ≠ none ∨ x.kind ≠ .connectionReset)

theorem Kind.name_eq_reset_iff {k : Kind} : k.name = "ConnectionReset" ↔ k = .connectionReset := by
  cases k <;> simp [Kind.name]

/-- Only an error without a number, and of that kind, tells of a reset. -/
theorem detail_eq_reset_iff {x : IoError} :
    x.detail = "ConnectionReset" ↔ x.systemCode? = none ∧ x.kind = .connectionReset := by
  unfold detail
  cases hc : x.systemCode? with
  | none => simp [Kind.name_eq_reset_iff]
  | some code =>
    simp only [reduceCtorEq, false_and, iff_false]
    intro h
    -- one begins with a small letter, the other does not
    have hh := congrArg (fun s : String => s.toList.head?) h
    simp [String.toList_append] at hh

end IoError

/-! ### Faults -/

namespace StreamFault

/-- The same fault over another cause. -/
def withCause (y : IoError) : StreamFault → StreamFault
  | connectionReset _ => connectionReset y
  | sendFailed _ => sendFailed y
  | recvFailed _ => recvFailed y
  | f => f

@[simp] theorem disposition_withCause (y : IoError) (f : StreamFault) :
    (f.withCause y).disposition = f.disposition := by
  cases f <;> rfl

theorem ofIoError_of_isNotReady {x y : IoError} (hx : x.kind.isNotReady) (hy : y.kind.isNotReady)
    (d : Direction) : ofIoError x d = ofIoError y d := by
  cases d <;> simp [ofIoError, SocketSignal.ofKind, hx, hy]

theorem ofIoError_of_isPeerGone {x : IoError} (h : x.kind.isPeerGone) (d : Direction) :
    ofIoError x d = connectionReset x := by
  have hn : ¬x.kind.isNotReady := fun hn => IoError.not_isPeerGone_of_isNotReady hn h
  cases d <;> simp [ofIoError, SocketSignal.ofKind, hn, h]

theorem withCause_ofIoError (x : IoError) (d : Direction) :
    (ofIoError x d).withCause x = ofIoError x d := by
  unfold ofIoError
  cases SocketSignal.ofKind x.kind d with
  | recvFailed => by_cases hk : x.kind = .unexpectedEof <;> simp [hk, withCause]
  | _ => rfl

theorem withCause_of_isNotReady {x : IoError} (h : x.kind.isNotReady) (d : Direction)
    (y : IoError) : (ofIoError x d).withCause y = ofIoError x d := by
  cases d <;> simp [ofIoError, SocketSignal.ofKind, h, withCause]

/-- **The fault of the normalised error** is that of the error, over another cause. -/
theorem ofIoError_normalised (x : IoError) (d : Direction) :
    ofIoError (x.normalised d) d = (ofIoError x d).withCause (x.normalised d) := by
  by_cases hn : x.kind.isNotReady
  · rw [withCause_of_isNotReady hn, IoError.normalised_of_isNotReady hn]
    exact ofIoError_of_isNotReady rfl hn d
  by_cases hg : x.kind.isPeerGone
  · rw [ofIoError_of_isPeerGone hg, IoError.normalised_of_isPeerGone hg,
      ofIoError_of_isPeerGone rfl]
    rfl
  · rw [IoError.normalised_of_other hn hg, withCause_ofIoError]

theorem message_normalised (x : IoError) (d : Direction) :
    (ofIoError (x.normalised d) d).message = (ofIoError x d).message := by
  by_cases hn : x.kind.isNotReady
  · rw [ofIoError_normalised, withCause_of_isNotReady hn]
  by_cases hg : x.kind.isPeerGone
  · rw [IoError.normalised_of_isPeerGone hg, ofIoError_of_isPeerGone hg,
      ofIoError_of_isPeerGone rfl]
    rfl
  · rw [IoError.normalised_of_other hn hg]

/-- **The diagnostics are kept** exactly if a reset hides nothing. -/
theorem diagnostics_normalised_iff (x : IoError) (d : Direction) :
    (ofIoError (x.normalised d) d).diagnostics = (ofIoError x d).diagnostics ↔ ¬x.Masked := by
  by_cases hg : x.kind.isPeerGone
  · rw [IoError.normalised_of_isPeerGone hg, ofIoError_of_isPeerGone hg,
      ofIoError_of_isPeerGone rfl]
    have hd : (connectionReset (.wrapped .connectionReset x)).diagnostics =
        (noLayer, "ConnectionReset") := rfl
    have hx : (connectionReset x).diagnostics = (noLayer, x.detail) := rfl
    rw [hd, hx, Prod.mk.injEq, eq_comm (b := x.detail), IoError.detail_eq_reset_iff]
    simp [IoError.Masked, hg]
  · refine iff_of_true ?_ fun h => hg h.1
    by_cases hn : x.kind.isNotReady
    · rw [ofIoError_normalised, withCause_of_isNotReady hn]
    · rw [IoError.normalised_of_other hn hg]

end StreamFault

/-! ### Errors of the socket in a session -/

/-- A connected socket as a byte stream, with the errors as the socket reports them. -/
def Env.plainStream (i : Sockets ω κ) (socket : κ) : ByteStream (Env ω) :=
  ⟨Env.recv i socket, Env.send i socket⟩

namespace Session

theorem writeTls_normalised (io : ByteStream ε) (s : Session σ) (e : ε) :
    s.writeTls io.normalised e =
      ((s.writeTls io e).1.mapError (·.normalised .send), (s.writeTls io e).2) := by
  unfold writeTls
  split
  · rfl
  · next record rest _ =>
    have hw : io.normalised.write record e =
        ((io.write record e).1.mapError (·.normalised .send), (io.write record e).2) := rfl
    rw [hw]
    rcases io.write record e with ⟨x | n, e₁⟩
    · rfl
    · dsimp only [Except.mapError]
      split <;> rfl

theorem readTls_normalised (p : Protocol σ) (io : ByteStream ε) (s : Session σ) (e : ε) :
    s.readTls p io.normalised e =
      ((s.readTls p io e).1.mapError (·.normalised .recv), (s.readTls p io e).2) := by
  unfold readTls
  split
  · rfl
  · split
    · rfl
    · next limit core _ =>
      have hr : io.normalised.read limit e =
          ((io.read limit e).1.mapError (·.normalised .recv), (io.read limit e).2) := rfl
      rw [hr]
      rcases io.read limit e with ⟨x | data, e₁⟩ <;> rfl

/-- **A flush meets `x`**: the stream takes some of the records, and fails with `x` then. -/
inductive Meets (io : ByteStream ε) (x : IoError) : Session σ → ε → Session σ → ε → Prop
  | here {s e s' e'} (h : s.writeTls io e = (.error x, s', e')) : Meets io x s e s' e'
  | past {s e n s₁ e₁ s' e'} (h : s.writeTls io e = (.ok (n + 1), s₁, e₁))
      (rest : Meets io x s₁ e₁ s' e') : Meets io x s e s' e'

theorem Meets.keeps {io : ByteStream ε} {R : ε → ε → Prop} (hk : io.Keeps R) {x : IoError}
    {s s' : Session σ} {e e' : ε} (h : Meets io x s e s' e') : R e e' := by
  have step {s s' : Session σ} {e e' : ε} {r : Except IoError ℕ}
      (hw : s.writeTls io e = (r, s', e')) : R e e' := by
    have := writeTls_keeps hk s e
    rwa [hw] at this
  induction h with
  | here h => exact step h
  | past h _ ih => exact hk.trans (step h) ih

theorem Meets.flush {io : ByteStream ε} {x : IoError} {s s' : Session σ} {e e' : ε}
    (h : Meets io x s e s' e') :
    s.flush io.normalised e = (.error (.ofIoError (x.normalised .send) .send), s', e') := by
  induction h with
  | here h => exact flush_of_error (by rw [writeTls_normalised, h]; rfl)
  | past h _ ih =>
    rw [← ih]
    exact flush_of_more (by rw [writeTls_normalised, h]; rfl)

end Session

namespace Transport

/-! ### Calls that meet an error -/

/-- **The socket fails a send with `x`**, in the records that wait or in those of the plaintext. -/
inductive SendMeets (b : Backing ω σ κ) (socket : κ) (data : Bytes) (x : IoError) (s : Session σ)
    (e : Env ω) : Session σ → Env ω → Prop
  | waiting {s' e'} (h : s.Meets (Env.plainStream b.sockets socket) x e s' e') :
    SendMeets b socket data x s e s' e'
  | own {s₁ e₁ s' e'} (h : s.flush (Env.stream b.sockets socket) e = (.ok (), s₁, e₁))
      (hx : s₁.failure = none)
      (hm : (s₁.accepting b.protocol data).Meets (Env.plainStream b.sockets socket) x e₁ s' e') :
    SendMeets b socket data x s e s' e'

/-- **The socket fails a receive with `x`**, in one of its flushes or when it reads. -/
inductive RecvMeets (b : Backing ω σ κ) (socket : κ) (x : IoError) (s₀ : Session σ) (e₀ : Env ω) :
    Direction → Session σ → Env ω → Prop
  | flushing {s e s' e'} (h : Holding b socket s₀ e₀ (.ok ()) s e)
      (hm : s.Meets (Env.plainStream b.sockets socket) x e s' e') :
    RecvMeets b socket x s₀ e₀ .send s' e'
  | reading {s e s₁ e₁ s' e'} (h : Holding b socket s₀ e₀ (.ok ()) s e)
      (hf : Turn.afterFlush (s.flush (Env.stream b.sockets socket) e) = .again s₁ e₁)
      (hs : Idle s₁)
      (hr : s₁.readTls b.protocol (Env.plainStream b.sockets socket) e₁ = (.error x, s', e')) :
    RecvMeets b socket x s₀ e₀ .recv s' e'

variable {b : Backing ω σ κ} {socket : κ} {x : IoError} {s s' : Session σ} {e e' : Env ω}

theorem not_isRetryable_normalised (hx : ¬x.kind.isNotReady) (d : Direction) :
    ¬(StreamFault.ofIoError (x.normalised d) d).isRetryable := by
  rwa [isRetryable_normalised]

theorem sendOn_of_meets {data : Bytes} (h : SendMeets b socket data x s e s' e')
    (hx : ¬x.kind.isNotReady) :
    sendOn b socket data s e =
      (.error (.stream (.ofIoError (x.normalised .send) .send)), s',
        faulted "send" (.ofIoError (x.normalised .send) .send) e') := by
  have hr := not_isRetryable_normalised hx .send
  unfold sendOn
  cases h with
  | waiting h =>
    have hf : s.flush (Env.stream b.sockets socket) e = _ := h.flush
    simp only [hf, if_neg hr]
    rfl
  | @own s₁ e₁ _ _ h hs hm =>
    have hf : (s₁.accepting b.protocol data).flush (Env.stream b.sockets socket) e₁ = _ := hm.flush
    simp only [h, Session.write_of_sound hs, hf, if_neg hr]
    rfl

theorem recvOn_of_meets {d : Direction} (h : RecvMeets b socket x s e d s' e')
    (hx : ¬x.kind.isNotReady) (limit : ℕ) :
    ∃ fuel, recvOn b socket limit fuel s e =
      some (.error (.stream (.ofIoError (x.normalised d) d)), s',
        faulted "recv" (.ofIoError (x.normalised d) d) e') := by
  cases h with
  | flushing h hm => exact recvOn_of_fatal limit h hm.flush (not_isRetryable_normalised hx .send)
  | @reading s₁ e₁ s₂ e₂ _ _ h hf hs hr =>
    refine recvOn_iff.mpr (h.endsAs ?_)
    rw [hf]
    have hr' : s₂.readTls b.protocol (Env.stream b.sockets socket) e₂ =
        (.error (x.normalised .recv), s', e') := by
      have hn := Session.readTls_normalised b.protocol (Env.plainStream b.sockets socket) s₂ e₂
      rw [hr] at hn
      exact hn
    refine receives_iff_turn.mpr ?_
    rw [turn_of_fails hs hr' (not_isRetryable_normalised hx .recv)]
    rfl

/-! ### What is logged of them -/

/-- The events of the log are as they were. -/
def Unlogged (e e' : Env ω) : Prop := e'.journal.logs = e.journal.logs

theorem plainStream_unlogged (i : Sockets ω κ) (socket : κ) :
    (Env.plainStream i socket).Keeps Unlogged where
  refl _ := rfl
  trans h h' := h'.trans h
  read _ _ := rfl
  write _ _ := rfl

theorem stream_unlogged (i : Sockets ω κ) (socket : κ) : (Env.stream i socket).Keeps Unlogged :=
  (plainStream_unlogged i socket).normalised

theorem unlogged_of_flush {r : Except StreamFault Unit}
    (h : s.flush (Env.stream b.sockets socket) e = (r, s', e')) : Unlogged e e' := by
  have hk := Session.flush_keeps (stream_unlogged b.sockets socket) s e
  rwa [h] at hk

theorem Holding.unlogged {s₀ : Session σ} {e₀ : Env ω} {r : Except TlsError Unit}
    (h : Holding b socket s₀ e₀ r s e) : Unlogged e₀ e := by
  induction h with
  | start => rfl
  | @round s e s₁ e₁ n s₂ e₂ r s₃ h hf hs ht hp ih =>
    have hread := Session.readTls_keeps (stream_unlogged b.sockets socket) b.protocol s₁ e₁
    rw [ht] at hread
    rcases hq : s.flush (Env.stream b.sockets socket) e with ⟨q, s', e'⟩
    rw [hq, afterFlush_eq_again_iff] at hf
    obtain ⟨-, rfl, rfl⟩ := hf
    exact hread.trans ((unlogged_of_flush hq).trans ih)

theorem SendMeets.unlogged {data : Bytes} (h : SendMeets b socket data x s e s' e') :
    Unlogged e e' := by
  cases h with
  | waiting hm => exact hm.keeps (plainStream_unlogged b.sockets socket)
  | own h hx hm =>
    exact (hm.keeps (plainStream_unlogged b.sockets socket)).trans (unlogged_of_flush h)

theorem RecvMeets.unlogged {d : Direction} (h : RecvMeets b socket x s e d s' e') :
    Unlogged e e' := by
  cases h with
  | flushing h hm => exact (hm.keeps (plainStream_unlogged b.sockets socket)).trans h.unlogged
  | @reading s₁ e₁ s₂ e₂ _ _ h hf hs hr =>
    have hread := Session.readTls_keeps (plainStream_unlogged b.sockets socket) b.protocol s₂ e₂
    rw [hr] at hread
    rcases hq : s₁.flush (Env.stream b.sockets socket) e₁ with ⟨q, s₃, e₃⟩
    rw [hq, afterFlush_eq_again_iff] at hf
    obtain ⟨-, rfl, rfl⟩ := hf
    exact hread.trans ((unlogged_of_flush hq).trans h.unlogged)

/-- The event that tells of a fault that ended a call. -/
def failureEvent (operation : String) (f : StreamFault) : LogEvent :=
  .failure "TLS I/O failed" (("op", operation) :: faultFields f)

theorem failureEvent_inj {operation : String} {f g : StreamFault} :
    failureEvent operation f = failureEvent operation g ↔ f.diagnostics = g.diagnostics := by
  simp [failureEvent, LogEvent.failure, faultFields, Prod.ext_iff]

theorem logs_faulted {f : StreamFault} (hf : f ≠ .peerClosed) (operation : String) (e : Env ω) :
    (faulted operation f e).journal.logs = e.journal.logs.push (failureEvent operation f) := by
  cases f with
  | peerClosed => exact absurd rfl hf
  | _ => simp [faulted, fail, Env.log, Journal.log, failureEvent]

/-- **The call from `e` to `e'` ended with the fault of `x`, and one event tells of it**: with the
concrete cause exactly if the error is not masked. -/
structure Reported {α : Type} (operation : String) (x : IoError) (d : Direction)
    (r : Except TransportError α) (e e' : Env ω) : Prop where
  result : r = .error (.stream (.ofIoError (x.normalised d) d))
  event : ∃ event, e'.journal.logs = e.journal.logs.push event ∧
    (event = failureEvent operation (.ofIoError x d) ↔ ¬x.Masked)

theorem reported_faulted {α : Type} (operation : String) (x : IoError) (d : Direction)
    (h : Unlogged e e') :
    Reported (α := α) operation x d (.error (.stream (.ofIoError (x.normalised d) d))) e
      (faulted operation (.ofIoError (x.normalised d) d) e') where
  result := rfl
  event := by
    refine ⟨_, ?_, failureEvent_inj.trans (StreamFault.diagnostics_normalised_iff x d)⟩
    rw [logs_faulted (ofIoError_ne_peerClosed _ d), h]

/-- **What is kept of a socket error.** Brought to another kind, it gives the same fault over another
cause, which is repeated alike and reads the same, and it gives the same diagnostics exactly if it is
not masked. So a send and a receive that meet an error for good end with that fault, and the one
event that they log tells the concrete cause exactly if the error is not masked. -/
theorem failures_diagnosed_iff (b : Backing ω σ κ) (x : IoError) :
    (∀ d, StreamFault.ofIoError (x.normalised d) d =
        (StreamFault.ofIoError x d).withCause (x.normalised d) ∧
      (StreamFault.ofIoError (x.normalised d) d).disposition =
        (StreamFault.ofIoError x d).disposition ∧
      (StreamFault.ofIoError (x.normalised d) d).message = (StreamFault.ofIoError x d).message ∧
      ((StreamFault.ofIoError (x.normalised d) d).diagnostics =
        (StreamFault.ofIoError x d).diagnostics ↔ ¬x.Masked)) ∧
    (¬x.kind.isNotReady → ∀ (t : Transport σ κ) (l : Live σ κ) (e : Env ω), t.live = .ok l →
      (∀ data s' e', data ≠ [] → SendMeets b l.socket data x l.tls e s' e' →
        Reported "send" x .send (t.send b data e).1 e (t.send b data e).2.2) ∧
      ∀ limit d s' e', 0 < limit → RecvMeets b l.socket x l.tls e d s' e' →
        ∃ fuel r t' e'', t.recv b limit fuel e = some (r, t', e'') ∧
          Reported "recv" x d r e e'') := by
  refine ⟨fun d => ⟨StreamFault.ofIoError_normalised x d, ?_, StreamFault.message_normalised x d,
    StreamFault.diagnostics_normalised_iff x d⟩, fun hx t l e hl => ⟨?_, ?_⟩⟩
  · rw [StreamFault.ofIoError_normalised, StreamFault.disposition_withCause]
  · intro data s' e' hd h
    rw [send_of_live hl hd, sendOn_of_meets h hx]
    exact reported_faulted "send" x .send h.unlogged
  · intro limit d s' e' hz h
    obtain ⟨fuel, ho⟩ := recvOn_of_meets h hx limit
    refine ⟨fuel, _, { t with session := some { l with tls := s' } }, _, ?_,
      reported_faulted "recv" x d h.unlogged⟩
    simp only [recv, hl, if_neg (Nat.ne_of_gt hz), ho, Option.map_some]

/-- The pipe is broken: the number of the error is not in the log. -/
theorem failures_diagnosed_iff_masked :
    ∃ (x : IoError) (t : Transport Bytes Unit) (l : Live Bytes Unit) (e e' : Env Script)
      (s' : Session Bytes) (event : LogEvent),
      ¬x.kind.isNotReady ∧ t.live = .ok l ∧
      SendMeets (Script.backing .plain) l.socket [120] x l.tls e s' e' ∧
      (StreamFault.ofIoError x .send).diagnostics.2 = "os error 32" ∧
      (t.send (Script.backing .plain) [120] e).2.2.journal.logs = e.journal.logs.push event ∧
      event ≠ failureEvent "send" (.ofIoError x .send) := by
  let x : IoError := .system 32
  let s : Session Bytes := .fresh [] []
  let t : Transport Bytes Unit := ⟨.connected, some ⟨(), s⟩⟩
  let e : Env Script := Script.inEnv ⟨.const (.error x), .const (.ok []), []⟩
  have hx : ¬x.kind.isNotReady := by decide
  have hm : SendMeets (Script.backing .plain) () [120] x s e _ _ :=
    .own (Session.flush_of_empty rfl) rfl (.here rfl)
  obtain ⟨-, hcalls⟩ := failures_diagnosed_iff (Script.backing .plain) x
  obtain ⟨event, hlogs, hevent⟩ := ((hcalls hx t ⟨(), s⟩ e rfl).1 [120] _ _ (by simp) hm).event
  refine ⟨x, t, ⟨(), s⟩, e, _, _, event, hx, rfl, hm, by decide +kernel, hlogs, fun h => ?_⟩
  exact hevent.mp h ⟨by decide, .inl (by decide)⟩

end Transport

end SecureStream
