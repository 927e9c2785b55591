import SecureStream.Proofs.Transport.Turn

/-! # Callers that try again

A caller sends all of some plaintext, sending what was not accepted again, or receives an exact
number of octets, receiving again while there are too few (`Program`). `Runs` are the runs of such a
caller in which no call fails; there is one at most (`Runs.unique`). -/

namespace SecureStream

variable {ω σ κ : Type}

/-- **What a caller does with a connection.** What it does next may depend on what it received. -/
inductive Program
  | done
  /-- Sends all of the plaintext. -/
  | send (data : Bytes) (next : Program)
  /-- Receives exactly so many octets. -/
  | receive (count : ℕ) (next : Bytes → Program)

/-- **A run in which no call fails**: the caller gets `d` and leaves the transport as the last call
did. -/
inductive Runs (b : Backing ω σ κ) : Program → Transport σ κ → Env ω → Bytes → Transport σ κ →
    Env ω → Prop
  | done {t e} : Runs b .done t e [] t e
  | sent {next t e d t' e'} (rest : Runs b next t e d t' e') : Runs b (.send [] next) t e d t' e'
  /-- What was not accepted is left to send. -/
  | send {data next t e n t₁ e₁ d t' e'} (hd : data ≠ []) (h : t.send b data e = (.ok n, t₁, e₁))
      (rest : Runs b (.send (data.drop n) next) t₁ e₁ d t' e') :
      Runs b (.send data next) t e d t' e'
  | received {next t e d t' e'} (rest : Runs b (next []) t e d t' e') :
      Runs b (.receive 0 next) t e d t' e'
  /-- What did not come is left to receive. -/
  | receive {k next t e fuel c t₁ e₁ d t' e'} (hk : 0 < k)
      (h : t.recv b k fuel e = some (.ok c, t₁, e₁))
      (rest : Runs b (.receive (k - c.length) fun r => next (c ++ r)) t₁ e₁ d t' e') :
      Runs b (.receive k next) t e (c ++ d) t' e'

namespace Transport

theorem recv_unique {b : Backing ω σ κ} {limit fuel fuel' : ℕ} {t : Transport σ κ} {e : Env ω}
    {o o' : Except TransportError Bytes × Transport σ κ × Env ω}
    (h : t.recv b limit fuel e = some o) (h' : t.recv b limit fuel' e = some o') : o = o' := by
  unfold recv at h h'
  rcases hl : t.live with x | l
  · simp only [hl, Option.some.injEq] at h h'
    exact h.symm.trans h'
  · simp only [hl] at h h'
    by_cases hz : limit = 0
    · simp only [if_pos hz, Option.some.injEq] at h h'
      exact h.symm.trans h'
    · simp only [if_neg hz] at h h'
      obtain ⟨q, hq, rfl⟩ := Option.map_eq_some_iff.mp h
      obtain ⟨q', hq', rfl⟩ := Option.map_eq_some_iff.mp h'
      rw [recvOn_unique hq hq']

end Transport

namespace Runs

variable {b : Backing ω σ κ} {t t₁ t' : Transport σ κ} {e e₁ e' : Env ω} {d : Bytes}

theorem of_send {data : Bytes} {next : Program} {n : ℕ} (hd : data ≠ [])
    (h : t.send b data e = (.ok n, t₁, e₁)) (hr : Runs b (.send data next) t e d t' e') :
    Runs b (.send (data.drop n) next) t₁ e₁ d t' e' := by
  cases hr with
  | sent _ => exact absurd rfl hd
  | send _ h' rest =>
    rw [h] at h'
    simp only [Prod.mk.injEq, Except.ok.injEq] at h'
    obtain ⟨rfl, rfl, rfl⟩ := h'
    exact rest

theorem of_receive {k fuel : ℕ} {next : Bytes → Program} {r : Except TransportError Bytes}
    (hk : 0 < k) (h : t.recv b k fuel e = some (r, t₁, e₁))
    (hr : Runs b (.receive k next) t e d t' e') :
    ∃ c d', r = .ok c ∧ d = c ++ d' ∧
      Runs b (.receive (k - c.length) fun r => next (c ++ r)) t₁ e₁ d' t' e' := by
  cases hr with
  | received _ => exact absurd hk (Nat.lt_irrefl 0)
  | receive _ h' rest =>
    have hu := Transport.recv_unique h h'
    simp only [Prod.mk.injEq] at hu
    obtain ⟨rfl, rfl, rfl⟩ := hu
    exact ⟨_, _, rfl, rfl, rest⟩

/-- **A caller has one run at most.** -/
theorem unique {p : Program} {t₂ : Transport σ κ} {e₂ : Env ω} {d' : Bytes}
    (h : Runs b p t e d t₁ e₁) (h' : Runs b p t e d' t₂ e₂) : d = d' ∧ t₁ = t₂ ∧ e₁ = e₂ := by
  induction h generalizing d' t₂ e₂ with
  | done =>
    cases h'
    exact ⟨rfl, rfl, rfl⟩
  | sent _ ih =>
    cases h' with
    | sent rest => exact ih rest
    | send hd _ _ => exact absurd rfl hd
  | send hd h _ ih => exact ih (h'.of_send hd h)
  | received _ ih =>
    cases h' with
    | received rest => exact ih rest
    | receive hk _ _ => exact absurd hk (Nat.lt_irrefl 0)
  | receive hk h _ ih =>
    obtain ⟨_, _, hc, rfl, rest⟩ := h'.of_receive hk h
    obtain rfl := Except.ok.inj hc
    obtain ⟨rfl, ht, he⟩ := ih rest
    exact ⟨rfl, ht, he⟩

end Runs

end SecureStream
