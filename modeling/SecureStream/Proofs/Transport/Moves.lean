import SecureStream.Proofs.Scripted
import SecureStream.Proofs.Transport.Exchange
import SecureStream.Proofs.Transport.Uses

/-! # What moves the octets of a session

Of an observed session all records that the protocol produced are known, and all octets that its
socket took. The octets that were taken, followed by the records that wait, should be those records
(`Conserved`).

A session is changed by writing, reading and working on records, by plaintext and by the
close-notify only (`Move`). Each of these keeps all octets (`conserved_of_move`), and whatever is
done with a session is such moves in a row (`Moves`, `paths`). -/

namespace SecureStream

variable {ω σ κ : Type}

/-- **The octets that the socket with number `n` took**, in order. -/
def wireOf (n : ℕ) (u : List Use) : Bytes :=
  u.flatMap fun x => if x.socket = some n ∧ x.call.request = .send then x.taken else []

theorem wireOf_append (n : ℕ) (u v : List Use) : wireOf n (u ++ v) = wireOf n u ++ wireOf n v :=
  List.flatMap_append

theorem wireOf_eq_nil {n : ℕ} {u : List Use} (h : ∀ c ∈ usesOf n u, c.request ≠ .send) :
    wireOf n u = [] := by
  rw [wireOf, List.flatMap_eq_nil_iff]
  intro x hx
  rw [if_neg]
  rintro ⟨hs, hr⟩
  refine h x.call (List.mem_map_of_mem (List.mem_filter.mpr ⟨hx, by simpa using hs⟩)) hr

/-- **Sockets that tell the truth**: no more is taken than was offered. -/
def Sockets.Honest (i : Sockets ω κ) : Prop := ∀ k b w n, (i.send k b w).1 = .ok n → n ≤ b.length

theorem Script.honest : Script.sockets.Honest := by
  intro k b w n hn
  simp only [Script.sockets, Script.send] at hn
  split at hn
  · cases hn
  · cases hn
    exact List.length_take_le' _ _

namespace Transport

/-- What the octets that were taken and those that wait come to. -/
def Conserved (n : ℕ) (s : Session (σ × Bytes)) (e : Env (ω × List Use)) : Prop :=
  wireOf n e.uses ++ s.outbox.flatten = s.core.2

/-- **One thing that happens to a session** on the socket `k`. -/
inductive Move (b : Backing ω σ κ) (k : κ × ℕ) :
    Session (σ × Bytes) × Env (ω × List Use) → Session (σ × Bytes) × Env (ω × List Use) → Prop
  /-- A record is offered to the socket. -/
  | writes (s e) : Move b k (s, e) (s.writeTls (Env.stream b.observed.sockets k) e).2
  /-- Octets are read. -/
  | reads (s e) :
    Move b k (s, e) (s.readTls b.observed.protocol (Env.stream b.observed.sockets k) e).2
  /-- Octets are worked on. -/
  | works (s e) : Move b k (s, e) ((s.process b.observed.protocol).2, e)
  /-- Plaintext is taken. -/
  | takes (s e data) : Move b k (s, e) ((s.write b.observed.protocol data).2, e)
  /-- The close-notify is queued. -/
  | closes (s e) : Move b k (s, e) (s.closeNotify b.observed.protocol, e)
  /-- Plaintext is given out, or something happens that has to do with neither the protocol, nor the
  records that wait, nor the octets on the socket. -/
  | aside {s s' e e'} (hc : s'.core = s.core) (ho : s'.outbox = s.outbox)
      (he : wireOf k.2 e'.uses = wireOf k.2 e.uses) : Move b k (s, e) (s', e')

variable {b : Backing ω σ κ} {k : κ × ℕ}

/-- **A write takes octets from the front of what it is offered**, or none. -/
theorem write_takes (hb : b.sockets.Honest) (d : Bytes) (e : Env (ω × List Use)) :
    (∃ x e', (Env.stream b.observed.sockets k).write d e = (.error x, e') ∧
      wireOf k.2 e'.uses = wireOf k.2 e.uses) ∨
    ∃ m e', (Env.stream b.observed.sockets k).write d e = (.ok m, e') ∧ m ≤ d.length ∧
      wireOf k.2 e'.uses = wireOf k.2 e.uses ++ d.take m := by
  rcases hw : (Env.stream b.observed.sockets k).write d e with ⟨r, e'⟩
  obtain ⟨hr, rfl⟩ := Prod.mk.inj hw
  have hu : wireOf k.2 ((Env.stream b.observed.sockets k).write d e).2.uses =
      wireOf k.2 e.uses ++ takenOf d (b.sockets.send k.1 d e.world.1).1 := by
    refine (wireOf_append k.2 e.uses _).trans ?_
    simp [wireOf, useOf]
  have hr' : (b.sockets.send k.1 d e.world.1).1.mapError (·.normalised .send) = r := hr
  rcases hs : (b.sockets.send k.1 d e.world.1).1 with x | m
  · rw [hs] at hr' hu
    refine .inl ⟨_, _, by rw [← hr']; rfl, hu.trans (List.append_nil _)⟩
  · rw [hs] at hr' hu
    exact .inr ⟨m, _, by rw [← hr']; rfl, hb _ _ _ _ hs, hu⟩

theorem read_takes_nothing (limit : ℕ) (e : Env (ω × List Use)) :
    wireOf k.2 ((Env.stream b.observed.sockets k).read limit e).2.uses = wireOf k.2 e.uses := by
  refine (wireOf_append k.2 e.uses _).trans ?_
  simp [wireOf, useOf]

theorem writeTls_conserves (hb : b.sockets.Honest) {s : Session (σ × Bytes)}
    {e : Env (ω × List Use)} (h : Conserved k.2 s e) :
    Conserved k.2 (s.writeTls (Env.stream b.observed.sockets k) e).2.1
      (s.writeTls (Env.stream b.observed.sockets k) e).2.2 := by
  unfold Session.writeTls
  cases hq : s.outbox with
  | nil => exact h
  | cons d rest =>
    dsimp only
    rcases write_takes hb d e with ⟨x, e', he, hw⟩ | ⟨m, e', he, hm, hw⟩
    · rw [he]
      show wireOf k.2 e'.uses ++ s.outbox.flatten = s.core.2
      rw [hw]
      exact h
    · have hle : m ≤ s.pending := by
        rw [Session.pending, hq, List.flatten_cons, List.length_append]
        exact Nat.le_add_right_of_le hm
      simp only [he, if_pos hle]
      show wireOf k.2 e'.uses ++ (Session.consume m s.outbox).flatten = s.core.2
      -- what was taken is what is missing at the front of the queue
      rw [hw, Session.flatten_consume, List.append_assoc, hq, List.flatten_cons,
        List.drop_append_of_le_length hm, ← List.append_assoc (d.take m), List.take_append_drop,
        ← List.flatten_cons, ← hq]
      exact h

theorem readTls_conserves {s : Session (σ × Bytes)} {e : Env (ω × List Use)}
    (h : Conserved k.2 s e) :
    Conserved k.2 (s.readTls b.observed.protocol (Env.stream b.observed.sockets k) e).2.1
      (s.readTls b.observed.protocol (Env.stream b.observed.sockets k) e).2.2 := by
  unfold Session.readTls
  split
  · exact h
  · split
    · next core hr =>
      obtain ⟨-, rfl⟩ := Prod.mk.inj hr
      exact h
    · next limit core hr =>
      obtain ⟨-, rfl⟩ := Prod.mk.inj hr
      have hu := read_takes_nothing (b := b) (k := k) limit e
      rcases hd : (Env.stream b.observed.sockets k).read limit e with ⟨x | data, e'⟩
      all_goals
        rw [hd] at hu
        exact (congrArg (· ++ _) hu).trans h

theorem queued_conserves {n : ℕ} {s s' : Session (σ × Bytes)} {e : Env (ω × List Use)}
    {records : List Bytes} (h : Conserved n s e) (ho : s'.outbox = s.outbox ++ records)
    (hc : s'.core.2 = s.core.2 ++ records.flatten) : Conserved n s' e := by
  unfold Conserved at h ⊢
  rw [ho, hc, List.flatten_append, ← List.append_assoc, h]

/-- **Each thing that happens to a session keeps all octets.** -/
theorem conserved_of_move (hb : b.sockets.Honest)
    {x y : Session (σ × Bytes) × Env (ω × List Use)} (h : Move b k x y)
    (hx : Conserved k.2 x.1 x.2) : Conserved k.2 y.1 y.2 := by
  cases h with
  | writes s e => exact writeTls_conserves hb hx
  | reads s e => exact readTls_conserves hx
  | works s e =>
    unfold Session.process
    split
    · exact hx
    · dsimp only
      split <;> exact queued_conserves hx rfl rfl
  | takes s e data =>
    unfold Session.write
    split
    · exact hx
    · exact queued_conserves hx rfl rfl
  | closes s e => exact queued_conserves hx rfl rfl
  | aside hc ho he =>
    unfold Conserved at hx ⊢
    rw [he, ho, hc]
    exact hx

/-! ### Moves in a row -/

/-- **Moves in a row.** -/
def Moves (b : Backing ω σ κ) (k : κ × ℕ) :
    Session (σ × Bytes) × Env (ω × List Use) → Session (σ × Bytes) × Env (ω × List Use) → Prop :=
  Relation.ReflTransGen (Move b k)

theorem Moves.refl (x : Session (σ × Bytes) × Env (ω × List Use)) : Moves b k x x :=
  Relation.ReflTransGen.refl

theorem Moves.trans {x y z : Session (σ × Bytes) × Env (ω × List Use)} (h : Moves b k x y)
    (h' : Moves b k y z) : Moves b k x z :=
  Relation.ReflTransGen.trans h h'

/-- **Moves in a row keep all octets**, by induction over them. -/
theorem conserved_of_moves (hb : b.sockets.Honest)
    {x y : Session (σ × Bytes) × Env (ω × List Use)} (h : Moves b k x y)
    (hx : Conserved k.2 x.1 x.2) : Conserved k.2 y.1 y.2 := by
  induction h with
  | refl => exact hx
  | tail _ hm ih => exact conserved_of_move hb hm ih

section
variable {s s' : Session (σ × Bytes)} {e e' : Env (ω × List Use)}

theorem moves_aside (s : Session (σ × Bytes)) (he : e'.uses = e.uses) :
    Moves b k (s, e) (s, e') :=
  .single (.aside rfl rfl (by rw [he]))

theorem moves_writeTls {r : Except IoError ℕ}
    (h : s.writeTls (Env.stream b.observed.sockets k) e = (r, s', e')) :
    Moves b k (s, e) (s', e') := by
  have hm := Move.writes (b := b) (k := k) s e
  rw [h] at hm
  exact .single hm

theorem moves_readTls {r : Except IoError ℕ}
    (h : s.readTls b.observed.protocol (Env.stream b.observed.sockets k) e = (r, s', e')) :
    Moves b k (s, e) (s', e') := by
  have hm := Move.reads (b := b) (k := k) s e
  rw [h] at hm
  exact .single hm

theorem moves_process {r : Except TlsError Unit} (h : s.process b.observed.protocol = (r, s')) :
    Moves b k (s, e) (s', e) := by
  have hm := Move.works (b := b) (k := k) s e
  rw [h] at hm
  exact .single hm

theorem moves_accepting (hx : s.failure = none) (data : Bytes) :
    Moves b k (s, e) (s.accepting b.observed.protocol data, e) := by
  have hm := Move.takes (b := b) (k := k) s e data
  rw [Session.write_of_sound hx] at hm
  exact .single hm

theorem moves_flush (b : Backing ω σ κ) (k : κ × ℕ) (s : Session (σ × Bytes))
    (e : Env (ω × List Use)) :
    Moves b k (s, e) (s.flush (Env.stream b.observed.sockets k) e).2 := by
  fun_induction Session.flush (Env.stream b.observed.sockets k) s e with
  | case1 s e _ x s₁ e₁ hw => exact moves_writeTls hw
  | case2 s e _ s₁ e₁ hw => exact moves_writeTls hw
  | case3 s e _ n s₁ e₁ hw ih => exact (moves_writeTls hw).trans ih
  | case4 s e _ => exact .refl _

theorem moves_of_flush {r : Except StreamFault Unit}
    (h : s.flush (Env.stream b.observed.sockets k) e = (r, s', e')) :
    Moves b k (s, e) (s', e') := by
  have hf := moves_flush b k s e
  rwa [h] at hf

/-! ### Handshakes -/

theorem moves_step (b : Backing ω σ κ) (k : κ × ℕ) (s : Session (σ × Bytes))
    (e : Env (ω × List Use)) :
    Moves b k (s, e)
      (Handshake.step b.observed.protocol (Env.stream b.observed.sockets k) s e).2 := by
  unfold Handshake.step
  split
  · split <;> next hw => exact moves_writeTls hw
  · split
    · exact .refl _
    · split
      · next hr => exact moves_readTls hr
      · next hr => exact moves_readTls hr
      · next s₁ e₁ hr =>
        split
        · next hp => exact (moves_readTls hr).trans (moves_process hp)
        · next x s₂ hp =>
          have hs := (moves_readTls hr).trans (moves_process hp)
          split
          · -- the alert is offered once
            exact hs.trans (moves_writeTls rfl)
          · exact hs

theorem moves_of_step {r : Except StreamFault Handshake.Step}
    (h : Handshake.step b.observed.protocol (Env.stream b.observed.sockets k) s e = (r, s', e')) :
    Moves b k (s, e) (s', e') := by
  have hs := moves_step b k s e
  rwa [h] at hs

theorem moves_now (s : Session (σ × Bytes)) (e : Env (ω × List Use)) :
    Moves b k (s, e) (s, (b.observed.clock.inEnv.now e).2) :=
  moves_aside s rfl

theorem moves_sleep (d : Duration) (s : Session (σ × Bytes)) (e : Env (ω × List Use)) :
    Moves b k (s, e) (s, b.observed.clock.inEnv.sleep d e) :=
  moves_aside s rfl

theorem moves_driveFrom {budget : Option Duration} {started fuel steps retries pause : ℕ}
    {o : Handshake.Outcome (σ × Bytes) (Env (ω × List Use))}
    (ho : Handshake.driveFrom b.observed.protocol (Env.stream b.observed.sockets k)
      b.observed.clock.inEnv budget started fuel steps retries pause s e = some o) :
    Moves b k (s, e) o.2 := by
  induction fuel generalizing steps retries pause s e with
  | zero => simp [Handshake.driveFrom] at ho
  | succ fuel ih =>
    rw [Handshake.driveFrom] at ho
    split at ho
    · next s₁ e₁ hs =>
      cases ho
      exact (moves_of_step hs).trans (moves_now s₁ e₁)
    · next hs => exact (moves_of_step hs).trans (ih ho)
    · next f s₁ e₁ hs =>
      have h₁ := moves_of_step hs
      split at ho
      · split at ho
        · exact h₁.trans ((moves_sleep _ s₁ e₁).trans (ih ho))
        · dsimp only at ho
          have hn := h₁.trans (moves_now s₁ e₁)
          split at ho
          · cases ho
            exact hn
          · exact hn.trans ((moves_sleep _ s₁ _).trans (ih ho))
      · cases ho
        exact h₁

theorem moves_drive {budget : Option Duration} {fuel : ℕ}
    {o : Handshake.Outcome (σ × Bytes) (Env (ω × List Use))}
    (ho : Handshake.drive b.observed.protocol (Env.stream b.observed.sockets k)
      b.observed.clock.inEnv budget fuel s e = some o) : Moves b k (s, e) o.2 :=
  (moves_now s e).trans (moves_driveFrom ho)

/-! ### Sending and receiving -/

theorem uses_faulted (operation : String) (f : StreamFault) (e : Env (ω × List Use)) :
    (faulted operation f e).uses = e.uses := by
  cases f <;> rfl

theorem moves_sendOn (b : Backing ω σ κ) (k : κ × ℕ) (data : Bytes) (s : Session (σ × Bytes))
    (e : Env (ω × List Use)) : Moves b k (s, e) (sendOn b.observed k data s e).2 := by
  have hs := sendOn_spec b.observed k data s e
  generalize sendOn b.observed k data s e = o at hs
  cases hs with
  | waits h _ => exact (moves_of_flush h).trans (moves_aside _ rfl)
  | fails h _ => exact (moves_of_flush h).trans (moves_aside _ (uses_faulted "send" _ _))
  | refused h _ => exact (moves_of_flush h).trans (moves_aside _ (uses_faulted "send" _ _))
  | takes h hx h₂ _ =>
    have ha := (moves_of_flush h).trans (moves_accepting hx data)
    exact ha.trans ((moves_of_flush h₂).trans (moves_aside _ rfl))
  | spoilt h hx h₂ _ =>
    have ha := (moves_of_flush h).trans (moves_accepting hx data)
    exact ha.trans ((moves_of_flush h₂).trans (moves_aside _ (uses_faulted "send" _ _)))

theorem read_frame (s : Session σ) (limit : ℕ) :
    (s.read limit).2 = { s with inbox := (s.read limit).2.inbox } := by
  unfold Session.read
  split
  · rfl
  · split
    · rfl
    · split <;> rfl

/-- Session and environment at the end of a part of a receive. -/
def Turn.end : Turn ω σ → Session σ × Env ω
  | .done o => o.2
  | .again s e => (s, e)

theorem moves_afterFlush (b : Backing ω σ κ) (k : κ × ℕ) (s : Session (σ × Bytes))
    (e : Env (ω × List Use)) :
    Moves b k (s, e) (Turn.afterFlush (s.flush (Env.stream b.observed.sockets k) e)).end := by
  rcases hf : s.flush (Env.stream b.observed.sockets k) e with ⟨f | _, s₁, e₁⟩
  · by_cases hr : f.isRetryable
    · rw [afterFlush_of_retryable hr]
      exact moves_of_flush hf
    · rw [afterFlush_of_fatal hr]
      exact (moves_of_flush hf).trans (moves_aside s₁ (uses_faulted "recv" f e₁))
  · exact moves_of_flush hf

theorem moves_turn (b : Backing ω σ κ) (k : κ × ℕ) (limit : ℕ) (s : Session (σ × Bytes))
    (e : Env (ω × List Use)) : Moves b k (s, e) (turn b.observed k limit s e).end := by
  have ht := turn_spec b.observed k limit s e
  generalize turn b.observed k limit s e = t at ht
  cases ht with
  | delivers _ => exact .single (.aside rfl rfl rfl)
  | @closed s₁ h =>
    -- only plaintext was looked for
    have hs : s₁ = { s with inbox := s₁.inbox } := by simpa only [h] using read_frame s limit
    exact .single (.aside (by rw [hs]) (by rw [hs]) (by rw [uses_faulted]))
  | ended _ _ _ => exact moves_aside s (uses_faulted "recv" .unexpectedEof e)
  | waits _ h _ => exact (moves_readTls h).trans (moves_aside _ rfl)
  | fails _ h _ => exact (moves_readTls h).trans (moves_aside _ (uses_faulted "recv" _ _))
  | @refuses n s₁ e₁ x s₂ _ h hp =>
    have hs := (moves_readTls h).trans (moves_process hp)
    exact hs.trans ((moves_flush b k s₂ e₁).trans (moves_aside _ (uses_faulted "recv" (.tls x) _)))
  | @works n s₁ e₁ s₂ t _ h hp ht =>
    have hs := (moves_readTls h).trans (moves_process hp)
    rw [← ht]
    exact hs.trans (moves_afterFlush b k s₂ e₁)

theorem moves_of_receives {limit : ℕ} {o : Received (ω × List Use) (σ × Bytes)}
    (h : Receives b.observed k limit s e o) : Moves b k (s, e) o.2 := by
  induction h with
  | @done s e o ht =>
    have hs := moves_turn b k limit s e
    rwa [ht] at hs
  | @again s e s' e' o ht _ ih =>
    have hs := moves_turn b k limit s e
    rw [ht] at hs
    exact hs.trans ih

theorem moves_recvOn {limit fuel : ℕ} {o : Received (ω × List Use) (σ × Bytes)}
    (h : recvOn b.observed k limit fuel s e = some o) : Moves b k (s, e) o.2 := by
  have hf := moves_afterFlush b k s e
  have ho := recvOn_iff.mp ⟨fuel, h⟩
  generalize Turn.afterFlush (s.flush (Env.stream b.observed.sockets k) e) = t at hf ho
  cases t with
  | done o' =>
    obtain rfl := ho
    exact hf
  | again s₁ e₁ => exact hf.trans (moves_of_receives ho)

end

/-- **All that is done with a session is moves in a row**, whatever comes of it. -/
structure Paths (b : Backing ω σ κ) (k : κ × ℕ) (s : Session (σ × Bytes))
    (e : Env (ω × List Use)) : Prop where
  flush : Moves b k (s, e) (s.flush (Env.stream b.observed.sockets k) e).2
  /-- A step of a handshake, -/
  step : Moves b k (s, e)
    (Handshake.step b.observed.protocol (Env.stream b.observed.sockets k) s e).2
  /-- and one that ends. -/
  handshake : ∀ budget fuel o, Handshake.drive b.observed.protocol
    (Env.stream b.observed.sockets k) b.observed.clock.inEnv budget fuel s e = some o →
      Moves b k (s, e) o.2
  send : ∀ data, Moves b k (s, e) (sendOn b.observed k data s e).2
  /-- A turn of a receive, -/
  turn : ∀ limit, Moves b k (s, e) (turn b.observed k limit s e).end
  /-- and one that ends. -/
  recv : ∀ limit fuel o, recvOn b.observed k limit fuel s e = some o → Moves b k (s, e) o.2
  /-- The peer is told that the session closes. -/
  close : Moves b k (s, e)
    ((s.closeNotify b.observed.protocol).flush (Env.stream b.observed.sockets k) e).2

theorem paths (b : Backing ω σ κ) (k : κ × ℕ) (s : Session (σ × Bytes)) (e : Env (ω × List Use)) :
    Paths b k s e where
  flush := moves_flush b k s e
  step := moves_step b k s e
  handshake _ _ _ := moves_drive
  send data := moves_sendOn b k data s e
  turn limit := moves_turn b k limit s e
  recv _ _ _ := moves_recvOn
  close := .head (.closes s e) (moves_flush b k (s.closeNotify b.observed.protocol) e)

end Transport

end SecureStream
