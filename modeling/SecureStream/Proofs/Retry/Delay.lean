import SecureStream.Proofs.Retry.Channel
import SecureStream.Proofs.Session.HandshakeStep
import SecureStream.Proofs.Transport.Simulation

/-! # A step over a delayed script

A script is delayed by answers that ask for another try, and by sends that take nothing
(`Script.Delays`). A step of a handshake over the delayed script meets such an answer, and nothing
has happened to the session but that room was made, or it does what the step over the other script
does (`step_delayed`). -/

namespace SecureStream

/-- **The second script is the first with `n` answers inserted** that take nothing and ask for
another try. -/
inductive Delayed : ℕ → Stream' (Except IoError ℕ) → Stream' (Except IoError ℕ) → Prop
  | none {s} : Delayed 0 s s
  | keep {n s s'} (a) (h : Delayed n s s') : Delayed n (.cons a s) (.cons a s')
  | waits {n s s' a} (ha : Script.Waits a) (h : Delayed n s s') : Delayed (n + 1) s (.cons a s')

theorem Delayed.head {n : ℕ} {s s' : Stream' (Except IoError ℕ)} (h : Delayed n s s') :
    (s'.head = s.head ∧ Delayed n s.tail s'.tail) ∨
      ∃ m, n = m + 1 ∧ Script.Waits s'.head ∧ Delayed m s s'.tail := by
  cases h with
  | none => exact .inl ⟨rfl, .none⟩
  | keep a h => exact .inl ⟨rfl, h⟩
  | @waits m _ _ a ha h => exact .inr ⟨m, rfl, ha, h⟩

/-! ### Scripts -/

namespace Script

/-- A script as the stream of a session. -/
def stream : ByteStream Script :=
  ByteStream.normalised ⟨fun limit w => w.recv limit, fun b w => w.send b⟩

/-- **The second script is the first, delayed** by `n` answers to sends and `m` to receives. -/
structure Delays (n m : ℕ) (w w' : Script) : Prop where
  sends : Delayed n w.sends w'.sends
  recvs : Inserted m w.recvs w'.recvs
  wire : w'.wire = w.wire

variable {n m : ℕ} {w w' : Script}

theorem Delays.send (h : Delays n m w w') (b : Bytes) :
    (∃ k a w₁', n = k + 1 ∧ w'.send b = (a, w₁') ∧ Waits a ∧ Delays k m w w₁') ∨
    ∃ r w₁ w₁', w.send b = (r, w₁) ∧ w'.send b = (r, w₁') ∧ Delays n m w₁ w₁' := by
  have hwire := h.wire
  rcases h.sends.head with ⟨hh, ht⟩ | ⟨k, rfl, ha, ht⟩
  · right
    unfold Script.send
    rw [hh]
    cases w.sends.head with
    | error x => exact ⟨_, _, _, rfl, rfl, ht, h.recvs, hwire⟩
    | ok k => exact ⟨_, _, _, rfl, rfl, ht, h.recvs, by rw [hwire]⟩
  · left
    unfold Script.send
    cases ha' : w'.sends.head with
    | error x =>
      rw [ha'] at ha
      exact ⟨k, _, _, rfl, rfl, ha, ht, h.recvs, hwire⟩
    | ok j =>
      rw [ha'] at ha
      obtain rfl : j = 0 := ha
      exact ⟨k, _, _, rfl, rfl, rfl, ht, h.recvs, by rw [List.take_zero, List.append_nil, hwire]⟩

theorem Delays.recv (h : Delays n m w w') (limit : ℕ) :
    (∃ k x w₁', m = k + 1 ∧ w'.recv limit = (.error x, w₁') ∧ x.kind.isNotReady ∧
      Delays n k w w₁') ∨
    ∃ r w₁ w₁', w.recv limit = (r, w₁) ∧ w'.recv limit = (r, w₁') ∧ Delays n m w₁ w₁' := by
  rcases h.recvs.head with ⟨hh, ht⟩ | ⟨k, x, rfl, hh, hx, ht⟩
  · right
    unfold Script.recv
    rw [hh]
    cases w.recvs.head with
    | error x => exact ⟨_, _, _, rfl, rfl, h.sends, ht, h.wire⟩
    | ok b => exact ⟨_, _, _, rfl, rfl, h.sends, inserted_afterRecv limit b ht, h.wire⟩
  · left
    unfold Script.recv
    rw [hh]
    exact ⟨k, x, _, rfl, rfl, hx, h.sends, ht, h.wire⟩

end Script

/-! ### Sessions -/

variable {σ ε : Type}

/-- **A protocol that can wait.** Making room twice is making it once, and does not end a
handshake. -/
structure Protocol.Patient (p : Protocol σ) : Prop where
  room : ∀ c, p.room (p.room c).2 = p.room c
  isHandshaking : ∀ c, p.isHandshaking (p.room c).2 = p.isHandshaking c

/-- The protocol may have made room already. -/
def Session.Waiting (p : Protocol σ) (s s' : Session σ) : Prop :=
  s.outbox = [] ∧ p.isHandshaking s.core = true ∧ s' = { s with core := (p.room s.core).2 }

namespace Session

variable {p : Protocol σ} {n m : ℕ} {w w' : Script} {s s' : Session σ}

theorem writeTls_delayed (h : Script.Delays n m w w') (hne : s.outbox ≠ [])
    (hfull : [] ∉ s.outbox) :
    (∃ k r w₁', n = k + 1 ∧ s.writeTls Script.stream w' = (r, s, w₁') ∧ Script.Waits r ∧
      Script.Delays k m w w₁') ∨
    ∃ r s₁ w₁ w₁', s.writeTls Script.stream w = (r, s₁, w₁) ∧
      s.writeTls Script.stream w' = (r, s₁, w₁') ∧ Script.Delays n m w₁ w₁' := by
  obtain ⟨record, rest, hq⟩ := List.exists_cons_of_ne_nil hne
  have hio (v : Script) : Script.stream.write record v =
      ((v.send record).1.mapError (·.normalised .send), (v.send record).2) := rfl
  unfold writeTls
  rw [hq]
  dsimp only
  rw [hio, hio]
  rcases h.send record with ⟨k, a, w₁', rfl, hs', ha, hd⟩ | ⟨r, w₁, w₁', hs, hs', hd⟩
  · left
    rw [hs']
    rcases a with x | j
    · exact ⟨k, _, _, rfl, rfl, (isNotReady_normalised x .send).trans ha, hd⟩
    · obtain rfl : j = 0 := ha
      have hsent : s.sent 0 = s := by rw [sent, consume_zero hfull]
      simp only [Except.mapError, Nat.zero_le, if_true, hsent]
      exact ⟨k, _, _, rfl, rfl, rfl, hd⟩
  · right
    rw [hs, hs']
    rcases r with x | j
    · exact ⟨_, _, _, _, rfl, rfl, hd⟩
    · dsimp only [Except.mapError]
      by_cases hj : j ≤ s.pending
      · rw [if_pos hj, if_pos hj]
        exact ⟨_, _, _, _, rfl, rfl, hd⟩
      · rw [if_neg hj, if_neg hj]
        exact ⟨_, _, _, _, rfl, rfl, hd⟩

theorem readTls_delayed (hp : p.Patient) (h : Script.Delays n m w w')
    (hs : s' = s ∨ s.Waiting p s') :
    (∃ k x w₁', m = k + 1 ∧
      s'.readTls p Script.stream w' = (.error x, { s with core := (p.room s.core).2 }, w₁') ∧
      x.kind.isNotReady ∧ Script.Delays n k w w₁') ∨
    ∃ r s₁ w₁ s₁' w₁', s.readTls p Script.stream w = (r, s₁, w₁) ∧
      s'.readTls p Script.stream w' = (r, s₁', w₁') ∧ (r = .ok 0 ∨ s₁' = s₁) ∧
      Script.Delays n m w₁ w₁' := by
  have hroom : p.room s'.core = p.room s.core := by
    rcases hs with rfl | ⟨-, -, rfl⟩
    · rfl
    · exact hp.room s.core
  obtain ⟨core, rfl⟩ : ∃ core, s' = { s with core } := by
    rcases hs with rfl | ⟨-, -, rfl⟩
    · exact ⟨s'.core, rfl⟩
    · exact ⟨_, rfl⟩
  have hio (limit : ℕ) (v : Script) : Script.stream.read limit v =
      ((v.recv limit).1.mapError (·.normalised .recv), (v.recv limit).2) := rfl
  unfold readTls
  dsimp only at hroom ⊢
  rw [hroom]
  by_cases hc : s.closed = true
  · rw [if_pos hc, if_pos hc]
    exact .inr ⟨_, _, _, _, _, rfl, rfl, .inl rfl, h⟩
  rw [if_neg hc, if_neg hc]
  rcases p.room s.core with ⟨_ | limit, core'⟩
  · exact .inr ⟨_, _, _, _, _, rfl, rfl, .inr rfl, h⟩
  dsimp only
  rw [hio, hio]
  rcases h.recv limit with ⟨k, x, w₁', rfl, hr', hx, hd⟩ | ⟨r, w₁, w₁', hr, hr', hd⟩
  · rw [hr']
    exact .inl ⟨k, _, _, rfl, rfl, (isNotReady_normalised x .recv).trans hx, hd⟩
  · rw [hr, hr']
    rcases r with x | b
    · exact .inr ⟨_, _, _, _, _, rfl, rfl, .inr rfl, hd⟩
    · exact .inr ⟨_, _, _, _, _, rfl, rfl, .inr rfl, hd⟩

end Session

/-! ### Steps -/

theorem Protocol.Refines.refl (p : Protocol σ) : p.Refines id p where
  room _ := rfl
  feed _ _ := rfl
  process _ := rfl
  write _ _ _ := rfl
  start setup source := by
    rcases p.start setup source with ⟨_ | _, _⟩ <;> rfl
  isHandshaking _ := rfl
  closeNotify _ := rfl

namespace Handshake

/-- **The session `s'` over the script `w'` is delayed**, compared with `s` over `w`. -/
structure Lagging (p : Protocol σ) (n m : ℕ) (s : Session σ) (w : Script) (s' : Session σ)
    (w' : Script) : Prop where
  session : s' = s ∨ s.Waiting p s'
  script : Script.Delays n m w w'

variable {p : Protocol σ} {n m : ℕ} {w w' : Script} {s s' : Session σ}

section
variable (p : Protocol σ) (io : ByteStream ε) (view : ε → Script) (n m : ℕ) (s : Session σ) (e : ε)
  (s' : Session σ) (e' : ε)

/-- A step comes to the same over both scripts. -/
def Alike : Prop :=
  ∃ r s₁ e₁ s₁' e₁', step p io s e = (r, s₁, e₁) ∧ step p io s' e' = (r, s₁', e₁') ∧
    ((∀ f, r = .error f → f.isRetryable) → Lagging p n m s₁ (view e₁) s₁' (view e₁'))

/-- A step meets an answer that delays it. -/
def Delaying : Prop :=
  ∃ n₁ m₁ f s₁' e₁', n + m = n₁ + m₁ + 1 ∧ step p io s' e' = (.error f, s₁', e₁') ∧
    f.isRetryable ∧ Lagging p n₁ m₁ s (view e) s₁' (view e₁')

end

section
variable {io : ByteStream ε} {view : ε → Script} {e e' e₁ e₁' : ε} {s₁ s₁' : Session σ}
  {r : Except StreamFault Step}

theorem Alike.of_step (h : Alike p io view n m s e s' e') (hs : step p io s e = (r, s₁, e₁)) :
    ∃ s₁' e₁', step p io s' e' = (r, s₁', e₁') ∧
      ((∀ f, r = .error f → f.isRetryable) → Lagging p n m s₁ (view e₁) s₁' (view e₁')) := by
  obtain ⟨_, _, _, s₁', e₁', hr, hs', hl⟩ := h
  rw [hs] at hr
  cases hr
  exact ⟨s₁', e₁', hs', hl⟩

theorem Alike.of_step' (h : Alike p io view n m s e s' e')
    (hs' : step p io s' e' = (r, s₁', e₁')) :
    ∃ s₁ e₁, step p io s e = (r, s₁, e₁) ∧
      ((∀ f, r = .error f → f.isRetryable) → Lagging p n m s₁ (view e₁) s₁' (view e₁')) := by
  obtain ⟨_, s₁, e₁, _, _, hs, hr, hl⟩ := h
  rw [hs'] at hr
  cases hr
  exact ⟨s₁, e₁, hs, hl⟩

end

theorem write_step_delayed (hne : s.outbox ≠ []) (hfull : [] ∉ s.outbox)
    (h : Script.Delays n m w w') :
    Delaying p Script.stream id n m s w s w' ∨ Alike p Script.stream id n m s w s w' := by
  rcases Session.writeTls_delayed h hne hfull with
    ⟨k, r, w₁', rfl, hw', hr, hd⟩ | ⟨r, s₁, w₁, w₁', hw, hw', hd⟩
  · left
    have hsum : k + 1 + m = k + m + 1 := by omega
    rcases r with x | j
    · exact ⟨k, m, _, _, _, hsum, step_of_stepOn (.writeFails hw'),
        (isRetryable_ofIoError x .send).trans hr, .inl rfl, hd⟩
    · obtain rfl : j = 0 := hr
      exact ⟨k, m, _, _, _, hsum, step_of_stepOn (.full hne hw'), rfl, .inl rfl, hd⟩
  · right
    have hlag : Lagging p n m s₁ w₁ s₁ w₁' := ⟨.inl rfl, hd⟩
    rcases r with x | _ | j
    · exact ⟨_, _, _, _, _, step_of_stepOn (.writeFails hw), step_of_stepOn (.writeFails hw'),
        fun _ => hlag⟩
    · exact ⟨_, _, _, _, _, step_of_stepOn (.full hne hw), step_of_stepOn (.full hne hw'),
        fun _ => hlag⟩
    · exact ⟨_, _, _, _, _, step_of_stepOn (.writes hw), step_of_stepOn (.writes hw'),
        fun _ => hlag⟩

theorem read_step_delayed (hp : p.Patient) (hq : s.outbox = [])
    (hh : p.isHandshaking s.core = true) (h : Lagging p n m s w s' w') :
    Delaying p Script.stream id n m s w s' w' ∨ Alike p Script.stream id n m s w s' w' := by
  have hq' : s'.outbox = [] := by
    rcases h.session with rfl | ⟨-, -, rfl⟩ <;> exact hq
  have hh' : p.isHandshaking s'.core = true := by
    rcases h.session with rfl | ⟨-, -, rfl⟩
    · exact hh
    · exact (hp.isHandshaking s.core).trans hh
  rcases Session.readTls_delayed hp h.script h.session with
    ⟨k, x, w₁', rfl, hr', hx, hd⟩ | ⟨r, s₁, w₁, s₁', w₁', hr, hr', hs, hd⟩
  · left
    exact ⟨n, k, _, _, _, rfl, step_of_stepOn (.readFails hq' hh' hr'),
      (isRetryable_ofIoError x .recv).trans hx, .inr ⟨hq, hh, rfl⟩, hd⟩
  · right
    rcases r with x | _ | j
    · obtain rfl : s₁' = s₁ := hs.resolve_left (by simp)
      exact ⟨_, _, _, _, _, step_of_stepOn (.readFails hq hh hr),
        step_of_stepOn (.readFails hq' hh' hr'), fun _ => ⟨.inl rfl, hd⟩⟩
    · refine ⟨_, _, _, _, _, step_of_stepOn (.ends hq hh hr), step_of_stepOn (.ends hq' hh' hr'),
        fun hf => ?_⟩
      cases hf _ rfl
    · obtain rfl : s₁' = s₁ := hs.resolve_left (by simp)
      rcases hw : s₁'.process p with ⟨x | _, s₂⟩
      · refine ⟨_, _, _, _, _, step_of_stepOn (.refuses hq hh hr hw),
          step_of_stepOn (.refuses hq' hh' hr' hw), fun hf => ?_⟩
        cases hf _ rfl
      · exact ⟨_, _, _, _, _, step_of_stepOn (.works hq hh hr hw),
          step_of_stepOn (.works hq' hh' hr' hw), fun _ => ⟨.inl rfl, hd⟩⟩

theorem script_step_delayed (hp : p.Patient) (hfull : [] ∉ s.outbox)
    (h : Lagging p n m s w s' w') :
    Delaying p Script.stream id n m s w s' w' ∨ Alike p Script.stream id n m s w s' w' := by
  by_cases hq : s.outbox = []
  · by_cases hh : p.isHandshaking s.core = true
    · exact read_step_delayed hp hq hh h
    · obtain rfl : s' = s := h.session.resolve_right fun hw => hh hw.2.1
      have hdone (v : Script) : step p Script.stream s' v = (.ok .done, s', v) :=
        step_of_stepOn (.done hq (Bool.not_eq_true _ ▸ hh))
      exact .inr ⟨_, _, _, _, _, hdone w, hdone w', fun _ => h⟩
  · obtain rfl : s' = s := h.session.resolve_right fun hw => hq hw.1
    exact write_step_delayed hq hfull h.script

variable {io : ByteStream ε} {view : ε → Script} {e e' : ε}

theorem step_view (hio : io.Projects view Script.stream) (p : Protocol σ) (s : Session σ) (e : ε) :
    step p Script.stream s (view e) =
      ((step p io s e).1, (step p io s e).2.1, view (step p io s e).2.2) :=
  step_refines (f := id) (.refl p) hio s e

/-- **A step meets an answer that delays it**, or it comes to the same over both scripts. -/
theorem step_delayed (hp : p.Patient) (hio : io.Projects view Script.stream)
    (hfull : [] ∉ s.outbox) (h : Lagging p n m s (view e) s' (view e')) :
    Delaying p io view n m s e s' e' ∨ Alike p io view n m s e s' e' := by
  have hstep' := step_view hio p s' e'
  rcases script_step_delayed hp hfull h with
    ⟨n₁, m₁, f, s₁', w₁', hsum, hs', hf, hl⟩ | ⟨r, s₁, w₁, s₁', w₁', hs, hs', hl⟩
  · left
    rw [hs'] at hstep'
    rcases he' : step p io s' e' with ⟨r, s₂', e₁'⟩
    rw [he'] at hstep'
    cases hstep'
    exact ⟨n₁, m₁, f, s₂', e₁', hsum, he', hf, hl⟩
  · right
    have hstep := step_view hio p s e
    rw [hs] at hstep
    rw [hs'] at hstep'
    rcases he : step p io s e with ⟨r₂, s₂, e₁⟩
    rcases he' : step p io s' e' with ⟨r₂', s₂', e₁'⟩
    rw [he] at hstep
    rw [he'] at hstep'
    cases hstep
    cases hstep'
    exact ⟨r₂, s₂, e₁, s₂', e₁', he, he', hl⟩

end Handshake

end SecureStream
