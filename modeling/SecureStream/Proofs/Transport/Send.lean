import SecureStream.Proofs.Session.Flush
import SecureStream.Transport.Exchange

/-! # A send, case by case

A send flushes, hands plaintext to the writer and flushes again. `SendOn` lists what it can come to,
`sendOn_spec` says that this is all. -/

namespace SecureStream

variable {ω σ κ : Type}

namespace Session

/-- The session after its writer was offered plaintext. -/
def accepting (p : Protocol σ) (s : Session σ) (data : Bytes) : Session σ :=
  { s with
    core := (p.write s.core s.pending data).core
    outbox := s.outbox ++ (p.write s.core s.pending data).records }

/-- How much of the plaintext the writer accepts. -/
def accepted (p : Protocol σ) (s : Session σ) (data : Bytes) : ℕ :=
  (p.write s.core s.pending data).accepted

theorem write_of_failure {p : Protocol σ} {s : Session σ} {x : TlsError} (h : s.failure = some x)
    (data : Bytes) : s.write p data = (.error (.described .invalidData x.message), s) := by
  unfold write
  rw [h]

theorem write_of_sound {p : Protocol σ} {s : Session σ} (h : s.failure = none) (data : Bytes) :
    s.write p data = (.ok (s.accepted p data), s.accepting p data) := by
  unfold write
  split
  · next hx => rw [h] at hx; cases hx
  · rfl

theorem pending_of_empty {s : Session σ} (h : s.outbox = []) : s.pending = 0 := by
  rw [pending, h]
  rfl

end Session

namespace Transport

/-- The environment after a fault was reported. -/
def faulted (operation : String) (f : StreamFault) (e : Env ω) : Env ω :=
  (@fail ω Unit operation f e).2

/-- **What a send can come to.** -/
inductive SendOn (b : Backing ω σ κ) (socket : κ) (data : Bytes) (s : Session σ) (e : Env ω) :
    Except TransportError ℕ × Session σ × Env ω → Prop
  /-- Records of earlier calls wait; nothing was accepted. -/
  | waits {f s₁ e₁} (h : s.flush (Env.stream b.sockets socket) e = (.error f, s₁, e₁))
      (hf : f.isRetryable) : SendOn b socket data s e (.ok 0, s₁, e₁.count (.retries "send") 1)
  /-- Records of earlier calls cannot be sent; nothing was accepted. -/
  | fails {f s₁ e₁} (h : s.flush (Env.stream b.sockets socket) e = (.error f, s₁, e₁))
      (hf : ¬f.isRetryable) :
      SendOn b socket data s e (.error (.stream f), s₁, faulted "send" f e₁)
  /-- The session has failed before; nothing was accepted. -/
  | refused {x s₁ e₁} (h : s.flush (Env.stream b.sockets socket) e = (.ok (), s₁, e₁))
      (hx : s₁.failure = some x) :
      SendOn b socket data s e
        (.error (.stream (.ofIoError (.described .invalidData x.message) .send)), s₁,
          faulted "send" (.ofIoError (.described .invalidData x.message) .send) e₁)
  /-- Plaintext was accepted, and its records were sent or wait. -/
  | takes {s₁ e₁ r s₂ e₂} (h : s.flush (Env.stream b.sockets socket) e = (.ok (), s₁, e₁))
      (hx : s₁.failure = none)
      (h₂ : (s₁.accepting b.protocol data).flush (Env.stream b.sockets socket) e₁ = (r, s₂, e₂))
      (hr : ∀ f, r = .error f → f.isRetryable) :
      SendOn b socket data s e (.ok (s₁.accepted b.protocol data), s₂,
        e₂.count .bytesSent (s₁.accepted b.protocol data))
  /-- Plaintext was accepted, and its records cannot be sent. -/
  | spoilt {s₁ e₁ f s₂ e₂} (h : s.flush (Env.stream b.sockets socket) e = (.ok (), s₁, e₁))
      (hx : s₁.failure = none)
      (h₂ : (s₁.accepting b.protocol data).flush (Env.stream b.sockets socket) e₁ =
        (.error f, s₂, e₂))
      (hf : ¬f.isRetryable) :
      SendOn b socket data s e (.error (.stream f), s₂, faulted "send" f e₂)

/-- **A send comes to nothing else.** -/
theorem sendOn_spec (b : Backing ω σ κ) (socket : κ) (data : Bytes) (s : Session σ) (e : Env ω) :
    SendOn b socket data s e (sendOn b socket data s e) := by
  unfold sendOn
  dsimp only
  rcases h : s.flush (Env.stream b.sockets socket) e with ⟨f | _, s₁, e₁⟩
  · by_cases hf : f.isRetryable
    · simp only [if_pos hf]
      exact .waits h hf
    · simp only [if_neg hf]
      exact .fails h hf
  cases hx : s₁.failure with
  | some x =>
    simp only [Session.write_of_failure hx]
    exact .refused h hx
  | none =>
    simp only [Session.write_of_sound hx]
    rcases h₂ : (s₁.accepting b.protocol data).flush (Env.stream b.sockets socket) e₁ with
      ⟨f | _, s₂, e₂⟩
    · by_cases hf : f.isRetryable
      · simp only [if_pos hf]
        refine .takes h hx h₂ fun g hg => ?_
        obtain rfl := Except.error.inj hg
        exact hf
      · simp only [if_neg hf]
        exact .spoilt h hx h₂ hf
    · exact .takes h hx h₂ (by simp)

theorem sendOn_of_waits {b : Backing ω σ κ} {socket : κ} {data : Bytes} {s s₁ : Session σ}
    {e e₁ : Env ω} {f : StreamFault}
    (h : s.flush (Env.stream b.sockets socket) e = (.error f, s₁, e₁)) (hf : f.isRetryable) :
    sendOn b socket data s e = (.ok 0, s₁, e₁.count (.retries "send") 1) := by
  unfold sendOn
  simp only [h, if_pos hf]

theorem sendOn_of_takes {b : Backing ω σ κ} {socket : κ} {data : Bytes} {s s₁ s₂ : Session σ}
    {e e₁ e₂ : Env ω} {r : Except StreamFault Unit}
    (h : s.flush (Env.stream b.sockets socket) e = (.ok (), s₁, e₁)) (hx : s₁.failure = none)
    (h₂ : (s₁.accepting b.protocol data).flush (Env.stream b.sockets socket) e₁ = (r, s₂, e₂))
    (hr : ∀ f, r = .error f → f.isRetryable) :
    sendOn b socket data s e = (.ok (s₁.accepted b.protocol data), s₂,
      e₂.count .bytesSent (s₁.accepted b.protocol data)) := by
  unfold sendOn
  simp only [h, Session.write_of_sound hx, h₂]
  cases r with
  | error f => simp only [if_pos (hr f rfl)]
  | ok u => rfl

end Transport

end SecureStream
