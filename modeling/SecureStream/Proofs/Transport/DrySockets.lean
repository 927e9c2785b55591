import SecureStream.Proofs.Transport.AlertOffer
import SecureStream.Proofs.Transport.Heard

/-! # Calls return

Sockets run dry if only so many receives are left that may bring octets (`Sockets.RunsDry`). On such
sockets every call returns, and what it asks of them has a bound:

* A flush sends once for each octet that it takes off the queue, and at most once more
  (`sends_flush`). It does not receive.
* A turn of a receive that goes on has received once, and with that uses up a receive that was left
  or has come to the end of the stream (`allowance_of_again`). So there are no more turns than
  receives left and two (`recvLoop_bounded`).

`calls_return` has the calls of a transport. -/

namespace SecureStream

variable {ω σ κ : Type}

/-- **Sockets that run dry**: `left` tells how many receives may still bring octets. -/
structure Sockets.RunsDry (i : Sockets ω κ) (k : κ) (left : ω → ℕ) : Prop where
  send : ∀ b w, left (i.send k b w).2 ≤ left w
  recv : ∀ limit w, left (i.recv k limit w).2 ≤ left w
  uses : ∀ limit w b, (i.recv k limit w).1 = .ok b → b ≠ [] →
    left (i.recv k limit w).2 < left w

/-- What one round of work on records queues has at most `q` octets. -/
def Protocol.Queues (p : Protocol σ) (q : ℕ) : Prop :=
  ∀ core, (p.process core).records.flatten.length ≤ q

variable {i : Sockets ω κ} {k : κ} {left : ω → ℕ}

theorem Sockets.RunsDry.keeps (h : i.RunsDry k left) :
    Env.Keeps i k fun e e' => left e'.world ≤ left e.world where
  stream := {
    refl := fun _ => Nat.le_refl _
    trans := fun h h' => Nat.le_trans h' h
    read := fun limit e => h.recv limit e.world
    write := fun b e => h.send b e.world }
  log _ _ := Nat.le_refl _
  count _ _ _ := Nat.le_refl _

namespace Session

/-! ### Sends of a flush -/

theorem answers_writeTls (i : Sockets ω κ) (k : κ) (s : Session σ) (e : Env ω) :
    (s.writeTls (Env.stream i k) e).2.2.answers.length ≤ e.answers.length + 1 := by
  unfold writeTls
  split
  · exact Nat.le_succ _
  · next record rest _ =>
    have hs : ((Env.stream i k).write record e).2.answers.length = e.answers.length + 1 := by
      have hsend := Env.answers_send i k record e
      have hio : ((Env.stream i k).write record e).2 = (e.send i k record).2 := rfl
      rw [hio, hsend, List.length_append, List.length_singleton]
    split
    · next he =>
      rw [he] at hs
      exact Nat.le_of_eq hs
    · next he =>
      rw [he] at hs
      split <;> exact Nat.le_of_eq hs

theorem eq_of_writeTls_error {ε : Type} {io : ByteStream ε} {s s' : Session σ} {e e' : ε}
    {x : IoError} (h : s.writeTls io e = (.error x, s', e')) : s' = s := by
  unfold writeTls at h
  split at h
  · cases h
  · split at h
    · cases h
      rfl
    · split at h <;> cases h
      rfl

/-- **The sends of a flush**: one for each octet that leaves the queue, and at most one more. -/
theorem sends_flush (i : Sockets ω κ) (k : κ) (s : Session σ) (e : Env ω) :
    (s.flush (Env.stream i k) e).2.2.answers.length + (s.flush (Env.stream i k) e).2.1.pending ≤
      e.answers.length + s.pending + 1 := by
  have write {s s' : Session σ} {e e' : Env ω} {r : Except IoError ℕ}
      (h : s.writeTls (Env.stream i k) e = (r, s', e')) :
      e'.answers.length ≤ e.answers.length + 1 := by
    have := answers_writeTls i k s e
    rwa [h] at this
  fun_induction flush (Env.stream i k) s e with
  | case1 s e _ x s' e' h =>
    -- the one more: a send that takes nothing ends the flush
    have hsend := write h
    obtain rfl := eq_of_writeTls_error h
    dsimp only
    omega
  | case2 s e _ s' e' h =>
    have hsend := write h
    have hpending := pending_writeTls h
    dsimp only
    omega
  | case3 s e _ n s' e' h ih =>
    have hsend := write h
    have hpending := pending_writeTls h
    omega
  | case4 s e _ => exact Nat.le_succ _

theorem sends_of_flush {s s' : Session σ} {e e' : Env ω} {r : Except StreamFault Unit}
    (h : s.flush (Env.stream i k) e = (r, s', e')) :
    e'.answers.length + s'.pending ≤ e.answers.length + s.pending + 1 := by
  have := sends_flush i k s e
  rwa [h] at this

/-! ### Reading and working -/

/-- Reading receives once at most, sends nothing and queues nothing. -/
theorem uses_readTls (p : Protocol σ) (i : Sockets ω κ) (k : κ) (s : Session σ) (e : Env ω) :
    (s.readTls p (Env.stream i k) e).2.2.heard.length ≤ e.heard.length + 1 ∧
      (s.readTls p (Env.stream i k) e).2.2.answers = e.answers ∧
      (s.readTls p (Env.stream i k) e).2.1.outbox = s.outbox := by
  unfold readTls
  split
  · exact ⟨Nat.le_succ _, rfl, rfl⟩
  · split
    · exact ⟨Nat.le_succ _, rfl, rfl⟩
    · next limit core _ =>
      have hio : ((Env.stream i k).read limit e).2 = (e.recv i k limit).2 := rfl
      have hheard : ((Env.stream i k).read limit e).2.heard.length ≤ e.heard.length + 1 := by
        rw [hio, Env.heard_recv, List.length_append, List.length_singleton]
      have hanswers : ((Env.stream i k).read limit e).2.answers = e.answers := by
        rw [hio, Env.answers_recv]
      split <;> next he =>
        rw [he] at hheard hanswers
        exact ⟨hheard, hanswers, rfl⟩

theorem uses_of_readTls {p : Protocol σ} {s s' : Session σ} {e e' : Env ω} {r : Except IoError ℕ}
    (h : s.readTls p (Env.stream i k) e = (r, s', e')) :
    e'.heard.length ≤ e.heard.length + 1 ∧ e'.answers = e.answers ∧ s'.outbox = s.outbox := by
  have := uses_readTls p i k s e
  rwa [h] at this

/-- **How many more receives a session can make**: none if its peer has closed or the stream has
ended. -/
def allowance (left : ω → ℕ) (s : Session σ) (e : Env ω) : ℕ :=
  if s.closed ∨ s.ended then 0 else left e.world + 1

theorem allowance_le (left : ω → ℕ) (s : Session σ) (e : Env ω) :
    s.allowance left e ≤ left e.world + 1 := by
  unfold allowance
  split
  · exact Nat.zero_le _
  · exact Nat.le_refl _

theorem allowance_mono {s s' : Session σ} {e e' : Env ω} (hc : s.closed → s'.closed)
    (he : s.ended → s'.ended) (hw : left e'.world ≤ left e.world) :
    s'.allowance left e' ≤ s.allowance left e := by
  unfold allowance
  split
  · exact Nat.zero_le _
  · next h =>
    rw [not_or] at h
    rw [if_neg (not_or.mpr ⟨mt hc h.1, mt he h.2⟩)]
    exact Nat.succ_le_succ hw

theorem allowance_of_readTls (hdry : i.RunsDry k left) {p : Protocol σ} {s s' : Session σ}
    {e e' : Env ω} {n : ℕ} (hs : Transport.Idle s)
    (h : s.readTls p (Env.stream i k) e = (.ok n, s', e')) :
    s'.allowance left e' < s.allowance left e := by
  have hallowance : s.allowance left e = left e.world + 1 := by
    rw [allowance, if_neg (by simp [hs.closed, hs.ended])]
  rw [hallowance]
  unfold readTls at h
  rw [if_neg (by simp [hs.closed])] at h
  split at h
  · cases h
  · next limit core _ =>
    have hio : (Env.stream i k).read limit e =
      ((i.recv k limit e.world).1.mapError (·.normalised .recv), (e.recv i k limit).2) := rfl
    have hworld : (e.recv i k limit).2.world = (i.recv k limit e.world).2 := rfl
    rw [hio] at h
    cases hr : (i.recv k limit e.world).1 with
    | error x =>
      rw [hr] at h
      cases h
    | ok data =>
      rw [hr] at h
      cases h
      by_cases hd : data = []
      · -- the end of the stream
        rw [allowance, if_pos (.inr (by simp [hd]))]
        exact Nat.succ_pos _
      · have hlt := hdry.uses limit e.world data hr hd
        have hle := allowance_le left
          { s with core := p.feed core data, ended := s.ended || data.isEmpty } (e.recv i k limit).2
        rw [hworld] at hle
        omega

theorem uses_of_process {p : Protocol σ} {s s' : Session σ} {r : Except TlsError Unit}
    (h : s.process p = (r, s')) :
    (∀ q, p.Queues q → s'.pending ≤ s.pending + q) ∧ (s.closed → s'.closed) ∧
      (s.ended → s'.ended) := by
  unfold process at h
  split at h
  · cases h
    exact ⟨fun q _ => Nat.le_add_right _ _, id, id⟩
  · have hpending (core : σ) (q : ℕ) (hq : p.Queues q) :
        (s.outbox ++ (p.process core).records).flatten.length ≤ s.pending + q := by
      rw [List.flatten_append, List.length_append]
      exact Nat.add_le_add_left (hq core) _
    dsimp only at h
    split at h <;> cases h <;>
      exact ⟨hpending s.core, fun hc => by rw [hc, Bool.true_or], id⟩

end Session

namespace Transport

variable {b : Backing ω σ κ} {limit : ℕ}

@[simp] theorem answers_faulted (operation : String) (f : StreamFault) (e : Env ω) :
    (faulted operation f e).answers = e.answers := by
  cases f <;> rfl

/-! ### What a receive asks of its socket -/

/-- **`n` receives at most** on the way from `(s, e)` to `o`. Each octet sent left the queue, and for
each receive there is one more send and what the protocol queued. -/
structure Costs (p : Protocol σ) (n : ℕ) (s : Session σ) (e : Env ω) (o : Session σ × Env ω) :
    Prop where
  receives : o.2.heard.length ≤ e.heard.length + n
  sends : ∀ q, p.Queues q →
    o.2.answers.length + o.1.pending ≤ e.answers.length + s.pending + n * (q + 1)

theorem Costs.mono {p : Protocol σ} {n m : ℕ} {s : Session σ} {e : Env ω} {o : Session σ × Env ω}
    (h : Costs p n s e o) (hle : n ≤ m) : Costs p m s e o where
  receives := Nat.le_trans h.receives (Nat.add_le_add_left hle _)
  sends q hq :=
    Nat.le_trans (h.sends q hq) (Nat.add_le_add_left (Nat.mul_le_mul_right (q + 1) hle) _)

theorem Costs.trans {p : Protocol σ} {n m : ℕ} {s s' : Session σ} {e e' : Env ω}
    {o : Session σ × Env ω} (h : Costs p n s e (s', e')) (h' : Costs p m s' e' o) :
    Costs p (n + m) s e o where
  receives := by
    have hn := h.receives
    have hm := h'.receives
    dsimp only at hn hm
    omega
  sends q hq := by
    have hn := h.sends q hq
    have hm := h'.sends q hq
    rw [Nat.add_mul]
    dsimp only at hn hm
    omega

theorem costs_nothing (p : Protocol σ) {s s' : Session σ} {e e' : Env ω}
    (hheard : e'.heard = e.heard) (hanswers : e'.answers = e.answers)
    (hq : s'.outbox = s.outbox) : Costs p 0 s e (s', e') where
  receives := Nat.le_of_eq (congrArg List.length hheard)
  sends q _ := by
    rw [hanswers, Session.pending, Session.pending, hq]
    exact Nat.le_add_right _ _

theorem costs_of_readTls {s s₁ : Session σ} {e e₁ e' : Env ω} {r : Except IoError ℕ}
    (h : s.readTls b.protocol (Env.stream b.sockets k) e = (r, s₁, e₁))
    (hheard : e'.heard = e₁.heard) (hanswers : e'.answers = e₁.answers) :
    Costs b.protocol 1 s e (s₁, e') := by
  obtain ⟨hr, ha, hq⟩ := Session.uses_of_readTls h
  refine ⟨by rw [hheard]; exact hr, fun q _ => ?_⟩
  rw [hanswers, ha, Session.pending, Session.pending, hq]
  exact Nat.le_add_right _ _

theorem costs_of_flush {s s₁ s₂ s' : Session σ} {e e₁ e₂ e' : Env ω} {r : Except IoError ℕ}
    {rp : Except TlsError Unit} {rf : Except StreamFault Unit}
    (h : s.readTls b.protocol (Env.stream b.sockets k) e = (r, s₁, e₁))
    (hp : s₁.process b.protocol = (rp, s₂))
    (hf : s₂.flush (Env.stream b.sockets k) e₁ = (rf, s', e₂))
    (hheard : e'.heard = e₂.heard) (hanswers : e'.answers = e₂.answers) :
    Costs b.protocol 1 s e (s', e') := by
  obtain ⟨hr, ha, hq⟩ := Session.uses_of_readTls h
  refine ⟨by rw [hheard, Session.heard_of_flush hf]; exact hr, fun q hqueues => ?_⟩
  have hqueued := (Session.uses_of_process hp).1 q hqueues
  have hsends := Session.sends_of_flush hf
  have hpending : s₁.pending = s.pending := by rw [Session.pending, Session.pending, hq]
  rw [ha] at hsends
  rw [hanswers]
  dsimp only
  omega

theorem end_of_afterFlush (r : Except StreamFault Unit × Session σ × Env ω) :
    (Turn.afterFlush r).end.1 = r.2.1 ∧ (Turn.afterFlush r).end.2.heard = r.2.2.heard ∧
      (Turn.afterFlush r).end.2.answers = r.2.2.answers := by
  obtain ⟨f | u, s, e⟩ := r
  · by_cases hf : f.isRetryable
    · rw [afterFlush_of_retryable hf]
      exact ⟨rfl, rfl, rfl⟩
    · rw [afterFlush_of_fatal hf]
      exact ⟨rfl, heard_faulted _ _ _, answers_faulted _ _ _⟩
  · exact ⟨rfl, rfl, rfl⟩

theorem allowance_of_idle (left : ω → ℕ) {s : Session σ} (hs : Idle s) (e : Env ω) :
    s.allowance left e = left e.world + 1 := by
  rw [Session.allowance, if_neg (by simp [hs.closed, hs.ended])]

/-- **A turn receives once at most**, and not at all if the session can receive no more. -/
theorem turn_costs (left : ω → ℕ) (b : Backing ω σ κ) (k : κ) (limit : ℕ) (s : Session σ)
    (e : Env ω) : Costs b.protocol (min 1 (s.allowance left e)) s e (turn b k limit s e).end := by
  have hidle (hs : Idle s) {o : Session σ × Env ω} (h : Costs b.protocol 1 s e o) :
      Costs b.protocol (min 1 (s.allowance left e)) s e o :=
    h.mono (by rw [allowance_of_idle left hs]; omega)
  have ht := turn_spec b k limit s e
  generalize turn b k limit s e = t at ht
  cases ht with
  | delivers _ =>
    refine Costs.mono (n := 0) ?_ (Nat.zero_le _)
    exact costs_nothing b.protocol rfl rfl rfl
  | @closed s₁ h =>
    have hs : s₁ = { s with inbox := s₁.inbox } := by simpa only [h] using read_frame s limit
    have hq : s₁.outbox = s.outbox := by rw [hs]
    exact (costs_nothing b.protocol (heard_faulted _ _ _) (answers_faulted _ _ _) hq).mono
      (Nat.zero_le _)
  | ended _ _ _ =>
    exact (costs_nothing b.protocol (heard_faulted _ _ _) (answers_faulted _ _ _) rfl).mono
      (Nat.zero_le _)
  | waits hs hr _ => exact hidle hs (costs_of_readTls hr rfl rfl)
  | fails hs hr _ =>
    exact hidle hs (costs_of_readTls hr (heard_faulted _ _ _) (answers_faulted _ _ _))
  | refuses hs hr hp =>
    exact hidle hs (costs_of_flush hr hp rfl (heard_faulted _ _ _) (answers_faulted _ _ _))
  | @works n s₁ e₁ s₂ t hs hr hp ht =>
    obtain ⟨hend, hheard, hanswers⟩ :=
      end_of_afterFlush (s₂.flush (Env.stream b.sockets k) e₁)
    rw [ht] at hend hheard hanswers
    have hcosts := costs_of_flush hr hp rfl hheard hanswers
    rw [← hend] at hcosts
    exact hidle hs hcosts

/-- **A turn that goes on** lowers the allowance. -/
theorem allowance_of_again (hdry : b.sockets.RunsDry k left) {s s' : Session σ} {e e' : Env ω}
    (h : turn b k limit s e = .again s' e') : s'.allowance left e' < s.allowance left e := by
  have ht := turn_spec b k limit s e
  rw [h] at ht
  generalize hq : Turn.again s' e' = q at ht
  cases ht with
  | @works n s₁ e₁ s₂ t hs hr hp ht =>
    subst hq
    rcases hf : s₂.flush (Env.stream b.sockets k) e₁ with ⟨r, s₃, e₃⟩
    rw [hf, afterFlush_eq_again_iff] at ht
    obtain ⟨-, rfl, rfl⟩ := ht
    have hread := Session.allowance_of_readTls hdry hs hr
    obtain ⟨-, hclosed, hended⟩ := Session.uses_of_process hp
    have hframe := Session.frame_of_flush hf
    have hworld := Session.flush_keeps hdry.keeps.stream s₂ e₁
    rw [hf] at hworld
    have hrest : s₃.allowance left e₃ ≤ s₁.allowance left e₁ :=
      Session.allowance_mono (fun hc => by rw [hframe]; exact hclosed hc)
        (fun he => by rw [hframe]; exact hended he) hworld
    exact Nat.lt_of_le_of_lt hrest hread
  | _ => cases hq

/-! ### Calls -/

/-- **The turns of a receive come to an end.** -/
theorem recvLoop_bounded (hdry : b.sockets.RunsDry k left) (limit : ℕ) (s : Session σ)
    (e : Env ω) :
    ∃ o, (∀ fuel, s.allowance left e < fuel → recvLoop b k limit fuel s e = some o) ∧
      Costs b.protocol (s.allowance left e) s e o.2 := by
  -- Fuel is needed for every turn, the last one included, which may not receive.
  induction hn : s.allowance left e using Nat.strong_induction_on generalizing s e with
  | _ n ih =>
    have hcosts := turn_costs left b k limit s e
    cases ht : turn b k limit s e with
    | done o =>
      rw [ht] at hcosts
      refine ⟨o, fun fuel hfuel => ?_, hcosts.mono (by omega)⟩
      obtain ⟨fuel, rfl⟩ := Nat.exists_eq_add_of_lt hfuel
      rw [recvLoop_succ_eq, ht]
    | again s' e' =>
      rw [ht] at hcosts
      have hlt := allowance_of_again hdry ht
      obtain ⟨o, hloop, hrest⟩ := ih _ (hn ▸ hlt) s' e' rfl
      refine ⟨o, fun fuel hfuel => ?_, (hcosts.trans hrest).mono (by omega)⟩
      obtain ⟨fuel, rfl⟩ := Nat.exists_eq_add_of_lt hfuel
      rw [recvLoop_succ_eq, ht]
      exact hloop _ (by omega)

/-- **A receive comes to an end.** -/
theorem recvOn_bounded (hdry : b.sockets.RunsDry k left) (limit : ℕ) (s : Session σ)
    (e : Env ω) :
    ∃ o, (∀ fuel, left e.world + 2 ≤ fuel → recvOn b k limit fuel s e = some o) ∧
      o.2.2.heard.length ≤ e.heard.length + (left e.world + 1) ∧
      ∀ q, b.protocol.Queues q → o.2.2.answers.length ≤
        e.answers.length + s.pending + 1 + (left e.world + 1) * (q + 1) := by
  rcases hf : s.flush (Env.stream b.sockets k) e with ⟨r, s₁, e₁⟩
  have hheard := Session.heard_of_flush hf
  have hsends := Session.sends_of_flush hf
  have hworld := Session.flush_keeps hdry.keeps.stream s e
  rw [hf] at hworld
  cases ht : Turn.afterFlush (r, s₁, e₁) with
  | done o =>
    obtain ⟨-, hheard', hanswers⟩ := end_of_afterFlush (r, s₁, e₁)
    rw [ht] at hheard' hanswers
    refine ⟨o, fun fuel _ => by rw [recvOn_eq, hf, ht], ?_, fun q _ => ?_⟩
    · rw [show o.2.2.heard = e.heard from hheard'.trans hheard]
      exact Nat.le_add_right _ _
    · rw [show o.2.2.answers = e₁.answers from hanswers]
      omega
  | again s₂ e₂ =>
    obtain ⟨-, rfl, rfl⟩ := afterFlush_eq_again_iff.mp ht
    obtain ⟨o, hloop, hcosts⟩ := recvLoop_bounded hdry limit s₁ e₁
    have hallowance : s₁.allowance left e₁ ≤ left e.world + 1 :=
      Nat.le_trans (Session.allowance_le left s₁ e₁) (Nat.succ_le_succ hworld)
    have hcosts := hcosts.mono hallowance
    refine ⟨o, fun fuel hfuel => ?_, ?_, fun q hq => ?_⟩
    · rw [recvOn_eq, hf, ht]
      exact hloop fuel (by omega)
    · rw [← hheard]
      exact hcosts.receives
    · have := hcosts.sends q hq
      omega

/-- A send receives nothing, and sends what waited, what the writer made of the plaintext, and twice
more at most. -/
theorem uses_sendOn (b : Backing ω σ κ) (k : κ) (data : Bytes) (s : Session σ) (e : Env ω) :
    (sendOn b k data s e).2.2.heard = e.heard ∧
      (sendOn b k data s e).2.2.answers.length ≤ e.answers.length + s.pending +
        (b.protocol.write s.core 0 data).records.flatten.length + 2 := by
  have again {s₁ s₂ : Session σ} {e₁ e₂ : Env ω} {r : Except StreamFault Unit}
      (h : s.flush (Env.stream b.sockets k) e = (.ok (), s₁, e₁))
      (h₂ : (s₁.accepting b.protocol data).flush (Env.stream b.sockets k) e₁ = (r, s₂, e₂)) :
      e₂.heard = e.heard ∧ e₂.answers.length ≤ e.answers.length + s.pending +
        (b.protocol.write s.core 0 data).records.flatten.length + 2 := by
    refine ⟨(Session.heard_of_flush h₂).trans (Session.heard_of_flush h), ?_⟩
    have hfirst := Session.sends_of_flush h
    have hsecond := Session.sends_of_flush h₂
    have hqueued : (s₁.accepting b.protocol data).pending =
        (b.protocol.write s.core 0 data).records.flatten.length := by
      have hempty := Session.outbox_flush_of_ok h
      rw [Session.accepting, Session.pending_of_empty hempty, Session.core_of_flush h, hempty]
      rfl
    omega
  have hs := sendOn_spec b k data s e
  generalize sendOn b k data s e = o at hs
  cases hs with
  | waits h _ =>
    have hsends := Session.sends_of_flush h
    rw [Env.heard_count, Env.answers_count]
    exact ⟨Session.heard_of_flush h, by omega⟩
  | fails h _ =>
    have hsends := Session.sends_of_flush h
    rw [heard_faulted, answers_faulted]
    exact ⟨Session.heard_of_flush h, by omega⟩
  | refused h _ =>
    have hsends := Session.sends_of_flush h
    rw [heard_faulted, answers_faulted]
    exact ⟨Session.heard_of_flush h, by omega⟩
  | takes h _ h₂ _ =>
    rw [Env.heard_count, Env.answers_count]
    exact again h h₂
  | spoilt h _ h₂ _ =>
    rw [heard_faulted, answers_faulted]
    exact again h h₂

/-- A disconnect receives nothing, and sends what waited, the close-notify, and once more at
most. -/
theorem uses_disconnect (b : Backing ω σ κ) {t : Transport σ κ} {l : Live σ κ}
    (h : t.live = .ok l) (e : Env ω) :
    (t.disconnect b e).2.heard = e.heard ∧
      (t.disconnect b e).2.answers.length ≤
        e.answers.length + (l.tls.closeNotify b.protocol).pending + 1 := by
  obtain ⟨hstate, hsession⟩ := live_eq_ok_iff.mp h
  have hsends := Session.sends_flush b.sockets l.socket (l.tls.closeNotify b.protocol) e
  have hheard := Session.heard_flush b.sockets l.socket (l.tls.closeNotify b.protocol) e
  have hreport (r : Except StreamFault Unit) (e : Env ω) :
      (reportClose r e).heard = e.heard ∧ (reportClose r e).answers = e.answers := by
    unfold reportClose
    split
    · exact ⟨rfl, rfl⟩
    · split <;> exact ⟨rfl, rfl⟩
  rw [disconnect, if_neg (by simp [hstate]), hsession]
  dsimp only
  rw [Env.heard_count, Env.heard_close, Env.answers_count, Env.answers_close, (hreport _ _).1,
    (hreport _ _).2]
  exact ⟨hheard, Nat.le_trans (Nat.le_add_right _ _) hsends⟩

/-- **The calls of a live transport return** on sockets that run dry. A receive makes one receive
more than are left at most; no other call makes any. A flush makes a send for each octet that it
takes off the queue, and at most once more, so the sends of a call have a bound as well. -/
theorem calls_return {t : Transport σ κ} {l : Live σ κ} (h : t.live = .ok l)
    (hdry : b.sockets.RunsDry l.socket left) (e : Env ω) :
    (∀ limit, ∃ o, (∀ fuel, left e.world + 2 ≤ fuel → t.recv b limit fuel e = some o) ∧
      o.2.2.heard.length ≤ e.heard.length + (left e.world + 1) ∧
      ∀ q, b.protocol.Queues q → o.2.2.answers.length ≤
        e.answers.length + l.tls.pending + 1 + (left e.world + 1) * (q + 1)) ∧
    (∀ buffer, ∃ o, (∀ fuel, left e.world + 2 ≤ fuel →
        t.recvBuffer b fuel buffer e = some o) ∧
      o.2.2.2.heard.length ≤ e.heard.length + (left e.world + 1) ∧
      ∀ q, b.protocol.Queues q → o.2.2.2.answers.length ≤
        e.answers.length + l.tls.pending + 1 + (left e.world + 1) * (q + 1)) ∧
    (∀ data, (t.send b data e).2.2.heard = e.heard ∧
      (t.send b data e).2.2.answers.length ≤ e.answers.length + l.tls.pending +
        (b.protocol.write l.tls.core 0 data).records.flatten.length + 2) ∧
    ((t.disconnect b e).2.heard = e.heard ∧
      (t.disconnect b e).2.answers.length ≤
        e.answers.length + (l.tls.closeNotify b.protocol).pending + 1) ∧
    ∀ (s : Session σ) (e : Env ω),
      (s.flush (Env.stream b.sockets l.socket) e).2.2.heard = e.heard ∧
        (s.flush (Env.stream b.sockets l.socket) e).2.2.answers.length +
          (s.flush (Env.stream b.sockets l.socket) e).2.1.pending ≤
            e.answers.length + s.pending + 1 := by
  have hrecv (limit : ℕ) :
      ∃ o, (∀ fuel, left e.world + 2 ≤ fuel → t.recv b limit fuel e = some o) ∧
        o.2.2.heard.length ≤ e.heard.length + (left e.world + 1) ∧
        ∀ q, b.protocol.Queues q → o.2.2.answers.length ≤
          e.answers.length + l.tls.pending + 1 + (left e.world + 1) * (q + 1) := by
    by_cases hl : limit = 0
    · subst hl
      exact ⟨_, fun fuel _ => recv_zero h, Nat.le_add_right _ _, fun q _ => by dsimp only; omega⟩
    · obtain ⟨o, hloop, hheard, hanswers⟩ := recvOn_bounded hdry limit l.tls e
      refine ⟨(o.1, { t with session := some { l with tls := o.2.1 } }, o.2.2),
        fun fuel hfuel => ?_, hheard, hanswers⟩
      simp [recv, h, hl, hloop fuel hfuel]
  refine ⟨hrecv, fun buffer => ?_, fun data => ?_, uses_disconnect b h e, fun s e =>
    ⟨Session.heard_flush _ _ s e, Session.sends_flush _ _ s e⟩⟩
  · obtain ⟨⟨r, t', e'⟩, ho, hheard, hanswers⟩ := hrecv recvChunk
    cases r with
    | ok data =>
      exact ⟨(.ok data.length, buffer ++ data, t', e'),
        fun fuel hfuel => by rw [recvBuffer, ho fuel hfuel]; rfl, hheard, hanswers⟩
    | error x =>
      exact ⟨(.error x, buffer, t', e'),
        fun fuel hfuel => by rw [recvBuffer, ho fuel hfuel]; rfl, hheard, hanswers⟩
  · by_cases hd : data = []
    · rw [hd, send_nil h]
      exact ⟨rfl, by dsimp only; omega⟩
    · rw [send_of_live h hd]
      exact uses_sendOn b l.socket data l.tls e

/-! ### Finite scripts -/

/-- What is left of two finite scripts, and what was sent. -/
structure Feed where
  reads : List (Except IoError Bytes)
  writes : List (Except IoError ℕ)
  wire : Bytes

namespace Feed

/-- A send takes octets from the front. -/
def take (r : Except IoError ℕ) (b : Bytes) (w : Feed) : Except IoError ℕ × Feed :=
  match r with
  | .error x => (.error x, w)
  | .ok n => (.ok (b.take n).length, { w with wire := w.wire ++ b.take n })

/-- **Sockets over finite scripts.** Each call takes an entry of its script; behind the last entry it
comes to the same for ever. -/
def sockets (read : Except IoError Bytes) (write : Except IoError ℕ) : Sockets Feed Unit where
  socket _ _ _ w := (.ok (), w)
  setOption _ _ w := (.ok (), w)
  connect _ _ _ w := (.ok (), w)
  send _ b w :=
    match w.writes with
    | [] => w.take write b
    | r :: writes => { w with writes }.take r b
  recv _ limit w :=
    match w.reads with
    | [] => (read, w)
    | r :: reads => (r.map (·.take limit), { w with reads })
  close _ w := w

@[simp] theorem reads_take (r : Except IoError ℕ) (b : Bytes) (w : Feed) :
    (w.take r b).2.reads = w.reads := by
  cases r <;> rfl

/-- **They run dry** if there are no octets behind the script of receives. -/
theorem runsDry {read : Except IoError Bytes} (h : ∀ b, read = .ok b → b = [])
    (write : Except IoError ℕ) : (sockets read write).RunsDry () fun w => w.reads.length where
  send b w := by
    obtain ⟨reads, _ | ⟨r, writes⟩, wire⟩ := w <;> simp [sockets]
  recv limit w := by
    obtain ⟨_ | ⟨r, reads⟩, writes, wire⟩ := w <;> simp [sockets]
  uses limit w b hb hne := by
    obtain ⟨_ | ⟨r, reads⟩, writes, wire⟩ := w
    · exact absurd (h b hb) hne
    · simp [sockets]

end Feed

/-- A protocol whose records hold no plaintext and are answered by two octets each. -/
def chatting : Protocol Unit where
  start _ source := (.ok ((), []), source)
  isHandshaking _ := false
  room _ := (some 4, ())
  feed _ _ := ()
  process _ := ⟨(), [[1, 2]], [], false, none⟩
  write _ _ b := ⟨(), b.length, []⟩
  closeNotify _ := ((), [])
  agreement _ := ⟨none, none, none, none⟩

/-- Two records come and nothing more for now, and a write takes one octet: the receive returns after
three receives and four sends. -/
theorem calls_return_chatting :
    let b : Backing Feed Unit Unit :=
      ⟨Feed.sockets (.error (.plain .wouldBlock)) (.ok 1), chatting,
        ⟨fun w => (0, w), fun _ w => w⟩⟩
    let e : Env Feed := ⟨⟨[.ok [0], .ok [0]], [], []⟩, ⟨none⟩, .empty⟩
    let t : Transport Unit Unit := ⟨.connected, some ⟨(), .fresh () []⟩⟩
    ∃ o, (∀ fuel, 4 ≤ fuel → t.recv b 8 fuel e = some o) ∧ o.1 = .ok [] ∧
      o.2.2.heard.length = 3 ∧ o.2.2.answers.length = 4 ∧ o.2.2.world.wire = [1, 2, 1, 2] := by
  intro b e t
  have hdry : b.sockets.RunsDry () fun w => w.reads.length := Feed.runsDry (by simp) (.ok 1)
  obtain ⟨hrecv, -⟩ := calls_return (b := b) (t := t) (l := ⟨(), .fresh () []⟩) rfl hdry e
  obtain ⟨o, ho, -⟩ := hrecv 8
  have hrun : (t.recv b 8 4 e).map (fun o => (o.1, o.2.2.heard.length, o.2.2.answers.length,
      o.2.2.world.wire)) = some (.ok [], 3, 4, [1, 2, 1, 2]) := by decide +kernel
  rw [ho 4 (Nat.le_refl _)] at hrun
  simp only [Option.map_some, Option.some.injEq, Prod.mk.injEq] at hrun
  exact ⟨o, ho, hrun⟩

end Transport

end SecureStream
