import SecureStream.Proofs.Scripted
import SecureStream.Proofs.Transport.Turn

/-! # When a receive delivers the plaintext that is there

A receive comes by points at which it is about to flush and then to look for plaintext: its start,
and the end of every round in which it read records and worked on them (`Holding`). At the first
such point with plaintext the call ends (`recvOn_of_holding`): with the plaintext, unless the flush
fails for good or the work on the records did. `recv_delivers_iff` says so of a transport: in these
two cases, and only then, plaintext that is there is withheld. -/

namespace SecureStream.Transport

variable {ω σ κ : Type} {b : Backing ω σ κ} {socket : κ} {limit : ℕ}

/-- **A point of a receive** from `s₀` and `e₀` on: the call is about to flush `s` in `e`, and `r`
is what came of the records that were worked on last. -/
inductive Holding (b : Backing ω σ κ) (socket : κ) (s₀ : Session σ) (e₀ : Env ω) :
    Except TlsError Unit → Session σ → Env ω → Prop
  | start : Holding b socket s₀ e₀ (.ok ()) s₀ e₀
  /-- The flush is passed, there is no plaintext, and records are read and worked on. -/
  | round {s e s₁ e₁ n s₂ e₂ r s₃} (h : Holding b socket s₀ e₀ (.ok ()) s e)
      (hf : Turn.afterFlush (s.flush (Env.stream b.sockets socket) e) = .again s₁ e₁)
      (hs : Idle s₁)
      (ht : s₁.readTls b.protocol (Env.stream b.sockets socket) e₁ = (.ok n, s₂, e₂))
      (hp : s₂.process b.protocol = (r, s₃)) : Holding b socket s₀ e₀ r s₃ e₂

/-- The plaintext that waits for the reader. -/
def unread (t : Transport σ κ) : Bytes := (t.session.map fun l => l.tls.inbox).getD []

theorem take_ne_nil {l : Bytes} (h : l ≠ []) (hl : 0 < limit) : l.take limit ≠ [] := by
  rw [ne_eq, List.take_eq_nil_iff, not_or]
  exact ⟨by omega, h⟩

/-- **From a point of a receive on it goes as from its start.** -/
theorem Holding.endsAs {s₀ s : Session σ} {e₀ e : Env ω} (h : Holding b socket s₀ e₀ (.ok ()) s e)
    {o : Received ω σ}
    (ho : (Turn.afterFlush (s.flush (Env.stream b.sockets socket) e)).EndsAs b socket limit o) :
    (Turn.afterFlush (s₀.flush (Env.stream b.sockets socket) e₀)).EndsAs b socket limit o := by
  generalize hr : (Except.ok () : Except TlsError Unit) = r at h
  induction h with
  | start => exact ho
  | round h hf hs ht hp ih =>
    subst hr
    refine ih ?_ rfl
    rw [hf]
    refine receives_iff_turn.mpr ?_
    rwa [turn_of_works hs ht hp]

/-! ### Plaintext that is there -/

/-- **What keeps a receive from delivering the plaintext of a point**: the work on the records
failed, or the flush fails for good. -/
def obstacle (b : Backing ω σ κ) (socket : κ) (r : Except TlsError Unit) (s : Session σ)
    (e : Env ω) : Option StreamFault :=
  match r, (s.flush (Env.stream b.sockets socket) e).1 with
  | .error x, _ => some (.tls x)
  | .ok (), .error f => if f.isRetryable then none else some f
  | .ok (), .ok () => none

/-- Nothing is in the way exactly if the records were sound and the flush does not fail for good. -/
theorem obstacle_eq_none_iff {r : Except TlsError Unit} {s : Session σ} {e : Env ω} :
    obstacle b socket r s e = none ↔
      r = .ok () ∧ ∀ f, (s.flush (Env.stream b.sockets socket) e).1 = .error f → f.isRetryable := by
  unfold obstacle
  cases r with
  | error x => simp
  | ok u =>
    cases (s.flush (Env.stream b.sockets socket) e).1 with
    | error f => simp
    | ok u => simp

theorem recvOn_of_failed (limit : ℕ) {s₀ s s₁ : Session σ} {e₀ e e₁ : Env ω} {x : TlsError}
    {q : Except StreamFault Unit} (h : Holding b socket s₀ e₀ (.error x) s e)
    (hf : s.flush (Env.stream b.sockets socket) e = (q, s₁, e₁)) :
    ∃ fuel, recvOn b socket limit fuel s₀ e₀ =
      some (.error (.stream (.tls x)), s₁, faulted "recv" (.tls x) e₁) := by
  cases h with
  | round h hp hs ht hw =>
    refine recvOn_iff.mpr (h.endsAs ?_)
    rw [hp]
    refine receives_iff_turn.mpr ?_
    rw [turn_of_refuses hs ht hw, hf]
    rfl

theorem recvOn_of_fatal (limit : ℕ) {s₀ s s₁ : Session σ} {e₀ e e₁ : Env ω} {f : StreamFault}
    (h : Holding b socket s₀ e₀ (.ok ()) s e)
    (hf : s.flush (Env.stream b.sockets socket) e = (.error f, s₁, e₁)) (hr : ¬f.isRetryable) :
    ∃ fuel, recvOn b socket limit fuel s₀ e₀ =
      some (.error (.stream f), s₁, faulted "recv" f e₁) := by
  refine recvOn_iff.mpr (h.endsAs ?_)
  rw [hf, afterFlush_of_fatal hr]
  rfl

theorem recvOn_of_passed {s₀ s s₁ : Session σ} {e₀ e e₁ : Env ω}
    (h : Holding b socket s₀ e₀ (.ok ()) s e)
    (hf : Turn.afterFlush (s.flush (Env.stream b.sockets socket) e) = .again s₁ e₁)
    (hi : s₁.inbox ≠ []) (hl : 0 < limit) :
    ∃ fuel, recvOn b socket limit fuel s₀ e₀ =
      some (.ok (s₁.inbox.take limit), { s₁ with inbox := s₁.inbox.drop limit },
        e₁.count .bytesReceived (s₁.inbox.take limit).length) := by
  refine recvOn_iff.mpr (h.endsAs ?_)
  rw [hf]
  refine receives_iff_turn.mpr ?_
  rw [turn_of_delivers (take_ne_nil hi hl)]
  rfl

/-- **A receive at a point with plaintext**: the plaintext, or the obstacle. -/
theorem recvOn_of_holding {s₀ s : Session σ} {e₀ e : Env ω} {r : Except TlsError Unit}
    (h : Holding b socket s₀ e₀ r s e) (hi : s.inbox ≠ []) (hl : 0 < limit) :
    ∃ fuel a s' e', recvOn b socket limit fuel s₀ e₀ = some (a, s', e') ∧
      match obstacle b socket r s e with
      | none => a = .ok (s.inbox.take limit) ∧ s'.inbox = s.inbox.drop limit
      | some f => a = .error (.stream f) ∧ s'.inbox = s.inbox := by
  rcases hf : s.flush (Env.stream b.sockets socket) e with ⟨q, s₁, e₁⟩
  have hi₁ : s₁.inbox = s.inbox := Session.inbox_of_flush hf
  cases r with
  | error x =>
    obtain ⟨fuel, ho⟩ := recvOn_of_failed limit h hf
    exact ⟨fuel, _, s₁, _, ho, rfl, hi₁⟩
  | ok u =>
    have passed (ha : Turn.afterFlush (q, s₁, e₁) = .again s₁ e₁)
        (hn : obstacle b socket (.ok u) s e = none) :
        ∃ fuel a s' e', recvOn b socket limit fuel s₀ e₀ = some (a, s', e') ∧
          match obstacle b socket (.ok u) s e with
          | none => a = .ok (s.inbox.take limit) ∧ s'.inbox = s.inbox.drop limit
          | some f => a = .error (.stream f) ∧ s'.inbox = s.inbox := by
      rw [← hf] at ha
      obtain ⟨fuel, ho⟩ := recvOn_of_passed h ha (by rwa [hi₁]) hl
      rw [hn]
      exact ⟨fuel, _, _, _, ho, by rw [hi₁], by rw [← hi₁]⟩
    cases q with
    | ok v => exact passed rfl (by simp [obstacle, hf])
    | error f =>
      by_cases hr : f.isRetryable
      · exact passed (afterFlush_of_retryable hr s₁ e₁) (by simp [obstacle, hf, hr])
      · obtain ⟨fuel, ho⟩ := recvOn_of_fatal limit h hf hr
        have ho' : obstacle b socket (.ok u) s e = some f := by simp [obstacle, hf, hr]
        rw [ho']
        exact ⟨fuel, _, s₁, _, ho, rfl, hi₁⟩

/-- **When a receive delivers plaintext.** A receive that starts with plaintext, or gets some from
records that it reads, ends there. The caller gets the first octets of the plaintext, at least one
and the rest kept, if and only if the work on the records did not fail and the flush does not fail
for good. Otherwise the caller gets that fault, and all of the plaintext is withheld. -/
theorem recv_delivers_iff {t : Transport σ κ} {l : Live σ κ} {e₀ e : Env ω} {s : Session σ}
    {r : Except TlsError Unit} (hl : t.live = .ok l) (hlim : 0 < limit)
    (h : Holding b l.socket l.tls e₀ r s e) (hi : s.inbox ≠ []) :
    s.inbox.take limit ≠ [] ∧ ∃ fuel a t' e', t.recv b limit fuel e₀ = some (a, t', e') ∧
      (a = .ok (s.inbox.take limit) ∧ t'.unread = s.inbox.drop limit ↔
        r = .ok () ∧
          ∀ f, (s.flush (Env.stream b.sockets l.socket) e).1 = .error f → f.isRetryable) ∧
      ∀ f, obstacle b l.socket r s e = some f → a = .error (.stream f) ∧ t'.unread = s.inbox := by
  have hne := take_ne_nil hi hlim
  obtain ⟨fuel, a, s', e', ho, ha⟩ := recvOn_of_holding h hi hlim
  refine ⟨hne, fuel, a, { t with session := some { l with tls := s' } }, e', ?_, ?_, ?_⟩
  · simp only [recv, hl, if_neg (Nat.ne_of_gt hlim), ho, Option.map_some]
  · rw [← obstacle_eq_none_iff]
    cases hob : obstacle b l.socket r s e with
    | none =>
      rw [hob] at ha
      exact iff_of_true ha rfl
    | some f =>
      rw [hob] at ha
      refine iff_of_false ?_ (by simp)
      rintro ⟨hok, -⟩
      rw [ha.1] at hok
      cases hok
  · intro f hob
    rw [hob] at ha
    exact ha

/-- A record of an earlier send waits, and the peer does not take it: plaintext is withheld. -/
theorem recv_delivers_iff_withheld :
    ∃ (t : Transport Bytes Unit) (l : Live Bytes Unit) (e : Env Script) (f : StreamFault) (fuel : ℕ)
      (t' : Transport Bytes Unit) (e' : Env Script),
      t.live = .ok l ∧ Holding (Script.backing .plain) l.socket l.tls e (.ok ()) l.tls e ∧
      l.tls.inbox = [99, 100] ∧
      t.recv (Script.backing .plain) 2 fuel e = some (.error (.stream f), t', e') ∧
      t'.unread = [99, 100] := by
  let s : Session Bytes := ⟨[], [[120]], [99, 100], false, false, none⟩
  let t : Transport Bytes Unit := ⟨.connected, some ⟨(), s⟩⟩
  let e : Env Script := Script.inEnv ⟨.const (.error (.plain .brokenPipe)), .const (.ok []), []⟩
  let f : StreamFault := .ofIoError (.wrapped .connectionReset (.plain .brokenPipe)) .send
  have hf : s.flush (Env.stream Script.sockets ()) e = (.error f, _, _) :=
    Session.flush_of_error rfl
  have hob : obstacle (Script.backing Protocol.plain) () (.ok ()) s e = some f := by
    simp only [obstacle, Script.backing, hf]
    rfl
  obtain ⟨-, fuel, a, t', e', hr, -, ha⟩ :=
    recv_delivers_iff (t := t) (l := ⟨(), s⟩) rfl Nat.two_pos .start (List.cons_ne_nil _ _)
  obtain ⟨rfl, hu⟩ := ha f hob
  exact ⟨t, ⟨(), s⟩, e, f, fuel, t', e', rfl, .start, rfl, hr, hu⟩

end SecureStream.Transport
