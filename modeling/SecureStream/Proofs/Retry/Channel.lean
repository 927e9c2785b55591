import SecureStream.Proofs.Retry.Insertion
import SecureStream.Proofs.Session.Flush

/-! # Records on the way to the wire

The queue of a session, the script of its sends and the wire are a channel, and every answer of the
script moves it on (`Channel.next?`). There is one way on only, so two places on the way of one
channel are one behind the other (`Path.compare`), and the octets on the wire and in the queue stay
the same (`Path.total`). A flush goes along this way (`flush_flushes`). -/

namespace SecureStream

/-- **Records, how the wire takes them, and what it took.** -/
structure Channel where
  queue : List Bytes
  sends : Stream' (Except IoError ℕ)
  wire : Bytes

namespace Channel

open Script

/-- **One answer of the script.** `none` if there is nothing to send or it fails for good. -/
def next? (c : Channel) : Option Channel :=
  match c.queue, c.sends.head with
  | [], _ => none
  | record :: rest, .ok n =>
    some ⟨if n < record.length then record.drop n :: rest else rest, c.sends.tail,
      c.wire ++ record.take n⟩
  | record :: rest, .error x =>
    if x.kind.isNotReady then some ⟨record :: rest, c.sends.tail, c.wire⟩ else none

/-- The octets on the wire and those in the queue. -/
def total (c : Channel) : Bytes := c.wire ++ c.queue.flatten

/-- More records at the end of the queue. -/
def add (records : List Bytes) (c : Channel) : Channel := { c with queue := c.queue ++ records }

theorem length_pos_of_not_mem {record : Bytes} {rest : List Bytes} (h : [] ∉ record :: rest) :
    0 < record.length := by
  rw [List.length_pos_iff]
  rintro rfl
  exact h List.mem_cons_self

theorem next?_of_empty {c : Channel} (h : c.queue = []) : c.next? = none := by
  unfold next?
  rw [h]

theorem next?_of_fails {c : Channel} (h : Fails c.sends.head) : c.next? = none := by
  unfold next?
  split
  · rfl
  · next hn => rw [hn] at h; exact absurd h id
  · next hx => rw [hx] at h; exact if_neg h

theorem next?_of_waits {c : Channel} (hq : [] ∉ c.queue) (hne : c.queue ≠ [])
    (h : Waits c.sends.head) : c.next? = some { c with sends := c.sends.tail } := by
  unfold next?
  split
  · next hq => exact absurd hq hne
  · next record rest n hr hn =>
    rw [hn] at h
    obtain rfl : n = 0 := h
    have hlen : 0 < record.length := length_pos_of_not_mem (hr ▸ hq)
    simp [hlen, hr]
  · next record rest x hr hx =>
    rw [hx] at h
    rw [if_pos (show x.kind.isNotReady = true from h), hr]

theorem sends_of_next? {c d : Channel} (h : c.next? = some d) : d.sends = c.sends.tail := by
  unfold next? at h
  split at h
  · cases h
  · obtain rfl := Option.some.inj h
    rfl
  · split at h
    · obtain rfl := Option.some.inj h
      rfl
    · cases h

theorem total_of_next? {c d : Channel} (h : c.next? = some d) : d.total = c.total := by
  unfold next? at h
  split at h
  · cases h
  · next record rest n hr _ =>
    obtain rfl := Option.some.inj h
    unfold total
    dsimp only
    rw [hr, List.append_assoc, List.append_cancel_left_eq, List.flatten_cons]
    split
    · rw [List.flatten_cons, ← List.append_assoc, List.take_append_drop]
    · next hn => rw [List.take_of_length_le (Nat.le_of_not_lt hn)]
  · next hr _ =>
    split at h
    · obtain rfl := Option.some.inj h
      unfold total
      rw [hr]
    · cases h

theorem next?_add {c d : Channel} (h : c.next? = some d) (records : List Bytes) :
    (c.add records).next? = some (d.add records) := by
  unfold next? at h
  split at h
  · cases h
  · next record rest n hr hn =>
    obtain rfl := Option.some.inj h
    simp only [next?, add, hr, hn, List.cons_append]
    split <;> rfl
  · next record rest x hr hx =>
    split at h
    · next hk =>
      obtain rfl := Option.some.inj h
      simp only [next?, add, hr, hx, List.cons_append, if_pos hk]
    · cases h

/-! ### Along the way -/

/-- **From one place to a later one** in `n` answers. -/
inductive Path : ℕ → Channel → Channel → Prop
  | nil {c} : Path 0 c c
  | cons {n c d e} (h : c.next? = some d) (rest : Path n d e) : Path (n + 1) c e

theorem Path.trans {n m : ℕ} {c d e : Channel} (h : Path n c d) (h' : Path m d e) :
    Path (n + m) c e := by
  induction h with
  | nil => rwa [Nat.zero_add]
  | cons hn _ ih => rw [Nat.add_right_comm]; exact .cons hn (ih h')

/-- **There is one way on only**: of two places on it one is behind the other. -/
theorem Path.compare {n m : ℕ} {c d e : Channel} (h : Path n c d) (h' : Path m c e) :
    (∃ k, m = n + k ∧ Path k d e) ∨ ∃ k, n = m + k ∧ Path k e d := by
  induction h generalizing m with
  | @nil c => exact .inl ⟨m, (Nat.zero_add m).symm, h'⟩
  | @cons n c c₁ d hn hrest ih =>
    cases h' with
    | nil => exact .inr ⟨n + 1, (Nat.zero_add _).symm, .cons hn hrest⟩
    | @cons m _ c₂ _ hm hrest' =>
      obtain rfl := Option.some.inj (hn.symm.trans hm)
      rcases ih hrest' with ⟨k, rfl, hk⟩ | ⟨k, rfl, hk⟩
      · exact .inl ⟨k, by omega, hk⟩
      · exact .inr ⟨k, by omega, hk⟩

theorem Path.of_stuck {n : ℕ} {c d : Channel} (hc : c.next? = none) (h : Path n c d) :
    n = 0 ∧ d = c := by
  cases h with
  | nil => exact ⟨rfl, rfl⟩
  | cons hn _ => rw [hc] at hn; cases hn

/-- **Octets are neither lost nor made on the way.** -/
theorem Path.total {n : ℕ} {c d : Channel} (h : Path n c d) : d.total = c.total := by
  induction h with
  | nil => rfl
  | cons hn _ ih => rw [ih, total_of_next? hn]

theorem Path.add {n : ℕ} {c d : Channel} (h : Path n c d) (records : List Bytes) :
    Path n (c.add records) (d.add records) := by
  induction h with
  | nil => exact .nil
  | cons hn _ ih => exact .cons (next?_add hn records) ih

theorem Path.sends {P : Stream' (Except IoError ℕ) → Prop} (hP : ∀ s, P s → P s.tail) {n : ℕ}
    {c d : Channel} (h : Path n c d) (hc : P c.sends) : P d.sends := by
  induction h with
  | nil => exact hc
  | cons hn _ ih => exact ih (by rw [sends_of_next? hn]; exact hP _ hc)

/-! ### Flushing -/

/-- **What a flush can come to.** -/
inductive Flushes (c : Channel) : Except StreamFault Unit → Channel → Prop
  /-- All was sent. -/
  | all {n d} (h : Path n c d) (hd : d.queue = []) : Flushes c (.ok ()) d
  /-- The wire takes no more for now. -/
  | waits {n d e f} (h : Path n c d) (hw : Waits d.sends.head) (hd : d.next? = some e)
      (hf : f.isRetryable) : Flushes c (.error f) e
  /-- The wire fails. -/
  | fails {n d f} (h : Path n c d) (hq : d.queue ≠ []) (hw : Fails d.sends.head)
      (hf : ¬f.isRetryable) : Flushes c (.error f) { d with sends := d.sends.tail }

theorem Flushes.cons {c d e : Channel} {r : Except StreamFault Unit} (h : c.next? = some d)
    (hf : Flushes d r e) : Flushes c r e := by
  cases hf with
  | all hp hd => exact .all (.cons h hp) hd
  | waits hp hw hd hf => exact .waits (.cons h hp) hw hd hf
  | fails hp hq hw hf => exact .fails (.cons h hp) hq hw hf

end Channel

/-! ### A flush over a script -/

namespace Session

open Channel Script

variable {σ : Type}

/-- The channel of a session over a script. -/
def channel (s : Session σ) (w : Script) : Channel := ⟨s.outbox, w.sends, w.wire⟩

theorem consume_zero {q : List Bytes} (h : [] ∉ q) : consume 0 q = q := by
  cases q with
  | nil => rfl
  | cons b rest => rw [consume, if_pos (length_pos_of_not_mem h), List.drop_zero]

theorem consume_take {record : Bytes} {rest : List Bytes} (h : [] ∉ rest) (n : ℕ) :
    consume (record.take n).length (record :: rest) =
      if n < record.length then record.drop n :: rest else rest := by
  rw [consume, List.length_take]
  by_cases hn : n < record.length
  · rw [if_pos hn, if_pos (by omega), Nat.min_eq_left (by omega)]
  · rw [if_neg hn, if_neg (by omega), Nat.min_eq_right (by omega), Nat.sub_self, consume_zero h]

section
variable {s : Session σ} {e : Env Script} {record : Bytes} {rest : List Bytes}

theorem stream_write (b : Bytes) (e : Env Script) :
    ∃ j, (Env.stream Script.sockets ()).write b e =
      ((e.world.send b).1.mapError (·.normalised .send),
        { e with world := (e.world.send b).2, journal := j }) :=
  ⟨_, rfl⟩

theorem writeTls_of_head_error {x : IoError} (ho : s.outbox = record :: rest)
    (hx : e.world.sends.head = .error x) :
    ∃ e', s.writeTls (Env.stream Script.sockets ()) e = (.error (x.normalised .send), s, e') ∧
      e'.world = { e.world with sends := e.world.sends.tail } := by
  have hs : e.world.send record = (.error x, { e.world with sends := e.world.sends.tail }) := by
    unfold Script.send
    rw [hx]
  obtain ⟨j, hj⟩ := stream_write record e
  rw [hs] at hj
  refine ⟨{ e with world := { e.world with sends := e.world.sends.tail }, journal := j }, ?_, rfl⟩
  unfold writeTls
  rw [ho]
  simp only [hj]
  rfl

theorem writeTls_of_head_ok {n : ℕ} (hq : [] ∉ s.outbox) (ho : s.outbox = record :: rest)
    (hn : e.world.sends.head = .ok n) :
    ∃ e', s.writeTls (Env.stream Script.sockets ()) e =
        (.ok (record.take n).length,
          { s with outbox := if n < record.length then record.drop n :: rest else rest }, e') ∧
      e'.world = { e.world with
        sends := e.world.sends.tail, wire := e.world.wire ++ record.take n } := by
  have hs : e.world.send record = (.ok (record.take n).length, { e.world with
      sends := e.world.sends.tail, wire := e.world.wire ++ record.take n }) := by
    unfold Script.send
    rw [hn]
  have hp : (record.take n).length ≤ s.pending := by
    rw [pending, ho, List.flatten_cons, List.length_append, List.length_take]
    omega
  have hrest : [] ∉ rest := fun h => hq (ho ▸ List.mem_cons_of_mem _ h)
  obtain ⟨j, hj⟩ := stream_write record e
  rw [hs] at hj
  refine ⟨{ e with
    world := { e.world with
      sends := e.world.sends.tail, wire := e.world.wire ++ record.take n }
    journal := j }, ?_, rfl⟩
  unfold writeTls
  rw [ho]
  simp only [hj, Except.mapError, if_pos hp, sent, ho, consume_take hrest]

theorem writeTls_of_head_zero (hq : [] ∉ s.outbox) (ho : s.outbox = record :: rest)
    (hn : e.world.sends.head = .ok 0) :
    ∃ e', s.writeTls (Env.stream Script.sockets ()) e = (.ok 0, s, e') ∧
      e'.world = { e.world with sends := e.world.sends.tail } := by
  obtain ⟨e', hw, hworld⟩ := writeTls_of_head_ok hq ho hn
  rw [List.take_zero, if_pos (length_pos_of_not_mem (ho ▸ hq)), List.drop_zero, ← ho] at hw
  rw [List.take_zero, List.append_nil] at hworld
  exact ⟨e', hw, hworld⟩

theorem flush_of_head_zero (hq : [] ∉ s.outbox) (hne : s.outbox ≠ [])
    (hn : e.world.sends.head = .ok 0) :
    ∃ e', s.flush (Env.stream Script.sockets ()) e = (.error .wantWrite, s, e') ∧
      e'.world = { e.world with sends := e.world.sends.tail } := by
  obtain ⟨record, rest, ho⟩ := List.exists_cons_of_ne_nil hne
  obtain ⟨e', hw, hworld⟩ := writeTls_of_head_zero hq ho hn
  exact ⟨e', flush_of_zero hne hw, hworld⟩

theorem writeTls_eq_error {x : IoError} {s₁ : Session σ} {e₁ : Env Script} (hq : [] ∉ s.outbox)
    (ho : s.outbox = record :: rest)
    (h : s.writeTls (Env.stream Script.sockets ()) e = (.error x, s₁, e₁)) :
    ∃ y, e.world.sends.head = .error y ∧ x = y.normalised .send ∧ s₁ = s ∧
      e₁.world = { e.world with sends := e.world.sends.tail } := by
  rcases hh : e.world.sends.head with y | n
  · obtain ⟨e', hw, hworld⟩ := writeTls_of_head_error ho hh
    rw [hw] at h
    simp only [Prod.mk.injEq, Except.error.injEq] at h
    obtain ⟨rfl, rfl, rfl⟩ := h
    exact ⟨y, rfl, rfl, rfl, hworld⟩
  · obtain ⟨e', hw, -⟩ := writeTls_of_head_ok hq ho hh
    rw [hw] at h
    cases h

theorem writeTls_eq_ok {n : ℕ} {s₁ : Session σ} {e₁ : Env Script} (hq : [] ∉ s.outbox)
    (ho : s.outbox = record :: rest)
    (h : s.writeTls (Env.stream Script.sockets ()) e = (.ok n, s₁, e₁)) :
    ∃ m, e.world.sends.head = .ok m ∧ n = (record.take m).length ∧
      s₁ = { s with outbox := if m < record.length then record.drop m :: rest else rest } ∧
      e₁.world = { e.world with
        sends := e.world.sends.tail, wire := e.world.wire ++ record.take m } := by
  rcases hh : e.world.sends.head with y | m
  · obtain ⟨e', hw, -⟩ := writeTls_of_head_error ho hh
    rw [hw] at h
    cases h
  · obtain ⟨e', hw, hworld⟩ := writeTls_of_head_ok hq ho hh
    rw [hw] at h
    simp only [Prod.mk.injEq, Except.ok.injEq] at h
    obtain ⟨rfl, rfl, rfl⟩ := h
    exact ⟨m, rfl, rfl, rfl, hworld⟩

end

theorem not_mem_of_sent {s : Session σ} {record : Bytes} {rest : List Bytes} (hq : [] ∉ s.outbox)
    (ho : s.outbox = record :: rest) (n : ℕ) :
    [] ∉ if n < record.length then record.drop n :: rest else rest := by
  have hrest : [] ∉ rest := fun h => hq (ho ▸ List.mem_cons_of_mem _ h)
  split
  · next hn =>
    rw [List.mem_cons, not_or]
    refine ⟨fun h => ?_, hrest⟩
    rw [eq_comm, List.drop_eq_nil_iff] at h
    omega
  · exact hrest

theorem exists_record {s : Session σ} (h : s.wantsWrite = true) :
    ∃ record rest, s.outbox = record :: rest := by
  refine List.exists_cons_of_ne_nil fun ho => ?_
  rw [wantsWrite_eq_false_iff.mpr ho] at h
  cases h

theorem channel_queue_ne_nil {s : Session σ} (h : s.wantsWrite = true) (w : Script) :
    (s.channel w).queue ≠ [] := by
  obtain ⟨record, rest, ho⟩ := exists_record h
  rw [channel, ho]
  exact List.cons_ne_nil _ _

section
variable {s s₁ : Session σ} {e e₁ : Env Script}

/-- A flush of which a write fails: the wire takes no more for now, or it fails. -/
theorem flushes_of_error {x : IoError} (hq : [] ∉ s.outbox) (hw : s.wantsWrite = true)
    (h : s.writeTls (Env.stream Script.sockets ()) e = (.error x, s₁, e₁)) :
    Flushes (s.channel e.world) (.error (.ofIoError x .send)) (s₁.channel e₁.world) ∧
      e₁.world.recvs = e.world.recvs ∧ [] ∉ s₁.outbox := by
  have hne := channel_queue_ne_nil hw e.world
  obtain ⟨record, rest, ho⟩ := exists_record hw
  obtain ⟨y, hh, rfl, rfl, hworld⟩ := writeTls_eq_error hq ho h
  refine ⟨?_, by rw [hworld], hq⟩
  rw [hworld]
  by_cases hn : y.kind.isNotReady
  · have hwaits : Waits (s₁.channel e.world).sends.head := by
      rw [channel, hh]
      exact hn
    exact .waits .nil hwaits (next?_of_waits hq hne hwaits) (by rwa [isRetryable_normalised])
  · have hfails : Fails (s₁.channel e.world).sends.head := by
      rw [channel, hh]
      exact hn
    exact .fails .nil hne hfails (by rwa [isRetryable_normalised])

theorem flushes_of_zero (hq : [] ∉ s.outbox) (hw : s.wantsWrite = true)
    (h : s.writeTls (Env.stream Script.sockets ()) e = (.ok 0, s₁, e₁)) :
    Flushes (s.channel e.world) (.error .wantWrite) (s₁.channel e₁.world) ∧
      e₁.world.recvs = e.world.recvs ∧ [] ∉ s₁.outbox := by
  have hne := channel_queue_ne_nil hw e.world
  obtain ⟨record, rest, ho⟩ := exists_record hw
  have hlen := length_pos_of_not_mem (ho ▸ hq)
  -- of a record that is not empty nothing is taken only if the script says so
  obtain ⟨m, hh, hz, -, -⟩ := writeTls_eq_ok hq ho h
  rw [List.length_take] at hz
  obtain rfl : m = 0 := by omega
  obtain ⟨e₂, h₂, hworld⟩ := writeTls_of_head_zero hq ho hh
  rw [h₂] at h
  simp only [Prod.mk.injEq, true_and] at h
  obtain ⟨rfl, rfl⟩ := h
  have hwaits : Waits (s.channel e.world).sends.head := by
    rw [channel, hh]
    rfl
  refine ⟨?_, by rw [hworld], hq⟩
  rw [hworld]
  exact .waits .nil hwaits (next?_of_waits hq hne hwaits) rfl

end

/-- **A flush goes along the way of the channel**, and touches nothing else of the script. -/
theorem flush_flushes {s s' : Session σ} {e e' : Env Script} {r : Except StreamFault Unit}
    (hq : [] ∉ s.outbox) (h : s.flush (Env.stream Script.sockets ()) e = (r, s', e')) :
    Flushes (s.channel e.world) r (s'.channel e'.world) ∧ e'.world.recvs = e.world.recvs ∧
      [] ∉ s'.outbox := by
  fun_induction flush (Env.stream Script.sockets ()) s e with
  | case1 s e hw x s₁ e₁ hwr =>
    simp only [Prod.mk.injEq] at h
    obtain ⟨rfl, rfl, rfl⟩ := h
    exact flushes_of_error hq hw hwr
  | case2 s e hw s₁ e₁ hwr =>
    simp only [Prod.mk.injEq] at h
    obtain ⟨rfl, rfl, rfl⟩ := h
    exact flushes_of_zero hq hw hwr
  | case3 s e hw n s₁ e₁ hwr ih =>
    obtain ⟨record, rest, ho⟩ := exists_record hw
    obtain ⟨m, hh, -, rfl, hworld⟩ := writeTls_eq_ok hq ho hwr
    obtain ⟨hf, hr, hq'⟩ := ih (not_mem_of_sent hq ho m) h
    refine ⟨.cons ?_ hf, by rw [hr, hworld], hq'⟩
    simp only [next?, channel, ho, hh, hworld]
  | case4 s e hw =>
    simp only [Prod.mk.injEq] at h
    obtain ⟨rfl, rfl, rfl⟩ := h
    have ho : s.outbox = [] := wantsWrite_eq_false_iff.mp (by simpa using hw)
    exact ⟨.all .nil ho, rfl, hq⟩

end Session

end SecureStream
