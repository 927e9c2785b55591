import SecureStream.Proofs.Transport.SocketUse
import SecureStream.Proofs.Transport.StreamEnd

/-! # What receives leave with the caller

A buffer that receives grows by a chunk of zeros, the plaintext overwrites the front of the chunk,
and the rest of it is cut off again (`recvGrown`); what is left is the buffer with the plaintext
behind it (`recvGrown_eq`). A series of calls over one transport, sends and receives of either kind,
is one of exchanges (`operate_eq_exchange`), so its account is theirs: what the caller got and what
waits for the reader is the plaintext in its order (`Streams`). -/

namespace SecureStream.Transport

variable {ω σ κ : Type} {b : Backing ω σ κ} {fuel : ℕ} {t t' : Transport σ κ} {e e' : Env ω}

/-! ### A buffer that grows -/

/-- The octets that a result counts: none for an error. -/
def counted : Except TransportError ℕ → ℕ
  | .ok n => n
  | .error _ => 0

/-- Receives into a slice. The plaintext overwrites its front. -/
def recvInto (b : Backing ω σ κ) (fuel : ℕ) (slice : Bytes) (t : Transport σ κ) (e : Env ω) :
    Option (Except TransportError ℕ × Bytes × Transport σ κ × Env ω) :=
  (t.recv b slice.length fuel e).map fun
    | (.ok data, t, e) => (.ok data.length, data ++ slice.drop data.length, t, e)
    | (.error x, t, e) => (.error x, slice, t, e)

/-- **Receives at the end of a buffer**: a chunk of zeros is put there, received into, and cut back
to what was counted. -/
def recvGrown (b : Backing ω σ κ) (fuel : ℕ) (buffer : Bytes) (t : Transport σ κ) (e : Env ω) :
    Option (Except TransportError ℕ × Bytes × Transport σ κ × Env ω) :=
  let grown := buffer ++ List.replicate recvChunk 0
  (recvInto b fuel (grown.drop buffer.length) t e).map fun
    | (r, slice, t, e) =>
      (r, (grown.take buffer.length ++ slice).take (buffer.length + counted r), t, e)

/-- **Nothing of the chunk is left but the plaintext.** -/
theorem recvGrown_eq (b : Backing ω σ κ) (fuel : ℕ) (buffer : Bytes) (t : Transport σ κ)
    (e : Env ω) : recvGrown b fuel buffer t e = t.recvBuffer b fuel buffer e := by
  unfold recvGrown recvInto recvBuffer
  simp only [List.drop_left, List.take_left, List.length_replicate, Option.map_map]
  refine congrArg (Option.map · _) (funext fun o => ?_)
  obtain ⟨x | data, t', e'⟩ := o
  · simp [counted]
  · simp [counted, List.take_append]

theorem recvBuffer_eq_some {buffer buffer' : Bytes} {r : Except TransportError ℕ}
    (h : t.recvBuffer b fuel buffer e = some (r, buffer', t', e')) :
    ∃ q, t.recv b recvChunk fuel e = some (q, t', e') ∧ r = q.map List.length ∧
      buffer' = buffer ++ delivered q := by
  obtain ⟨⟨x | data, t₁, e₁⟩, hr, ho⟩ := Option.map_eq_some_iff.mp h
  · cases ho
    exact ⟨.error x, hr, rfl, (List.append_nil _).symm⟩
  · cases ho
    exact ⟨.ok data, hr, rfl, rfl⟩

theorem counted_map_length (q : Except TransportError Bytes) :
    counted (q.map List.length) = (delivered q).length := by
  cases q <;> rfl

/-! ### No more than there is room for -/

/-- What a part of a receive delivers has room. -/
def Turn.Fits (limit : ℕ) : Turn ω σ → Prop
  | .done o => (delivered o.1).length ≤ limit
  | .again _ _ => True

section
variable {socket : κ} {limit : ℕ} {s : Session σ}

theorem failed_fits (limit : ℕ) (f : StreamFault) (s : Session σ) (e : Env ω) :
    (Turn.failed f s e).Fits limit := Nat.zero_le _

theorem afterFlush_fits (limit : ℕ) (r : Except StreamFault Unit × Session σ × Env ω) :
    (Turn.afterFlush r).Fits limit := by
  obtain ⟨f | u, s, e⟩ := r
  · by_cases hf : f.isRetryable
    · rw [afterFlush_of_retryable hf]
      trivial
    · rw [afterFlush_of_fatal hf]
      exact failed_fits _ _ _ _
  · trivial

theorem turn_fits (b : Backing ω σ κ) (socket : κ) (limit : ℕ) (s : Session σ) (e : Env ω) :
    (turn b socket limit s e).Fits limit := by
  have ht := turn_spec b socket limit s e
  generalize turn b socket limit s e = q at ht
  cases ht with
  | delivers _ => exact List.length_take_le _ _
  | waits _ _ _ => exact Nat.zero_le _
  | closed | ended | fails | refuses => exact failed_fits _ _ _ _
  | works _ _ _ ht =>
    rw [← ht]
    exact afterFlush_fits _ _

theorem receives_fits {o : Received ω σ} (h : Receives b socket limit s e o) :
    (delivered o.1).length ≤ limit := by
  induction h with
  | @done s e _ ht =>
    have hf := turn_fits b socket limit s e
    rwa [ht] at hf
  | again _ _ ih => exact ih

theorem recvOn_fits {o : Received ω σ} (h : recvOn b socket limit fuel s e = some o) :
    (delivered o.1).length ≤ limit := by
  have ho := recvOn_iff.mp ⟨fuel, h⟩
  have hf := afterFlush_fits limit (s.flush (Env.stream b.sockets socket) e)
  generalize Turn.afterFlush (s.flush (Env.stream b.sockets socket) e) = q at ho hf
  cases q with
  | done o' =>
    obtain rfl := ho
    exact hf
  | again s₁ e₁ => exact receives_fits ho

end

/-- **A receive delivers no more than there is room for.** -/
theorem recv_fits {limit : ℕ} {r : Except TransportError Bytes}
    (h : t.recv b limit fuel e = some (r, t', e')) : (delivered r).length ≤ limit := by
  unfold recv at h
  split at h
  · cases h
    exact Nat.zero_le _
  · split at h
    · cases h
      exact Nat.zero_le _
    · obtain ⟨⟨q, s, e₁⟩, ho, he⟩ := Option.map_eq_some_iff.mp h
      cases he
      exact recvOn_fits ho

/-! ### A series of calls -/

/-- The plaintext that a caller has after an operation and did not have before. -/
def Operation.gain : Operation → Answer → Bytes
  | .recv _, .received r => delivered r
  | .recvBuffer buffer, .appended _ buffer' => buffer'.drop buffer.length
  | _, _ => []

/-- **Does one thing after the other**, each with its own fuel, and collects the plaintext. -/
def operate (b : Backing ω σ κ) : List (Operation × ℕ) → Progress ω σ κ → Option (Progress ω σ κ)
  | [], x => some x
  | (op, fuel) :: rest, (d, t, e) =>
    (op.run b fuel t e).bind fun o => operate b rest (d ++ op.gain o.1, o.2.1, o.2.2)

theorem operate_append (calls more : List (Operation × ℕ)) (x : Progress ω σ κ) :
    operate b (calls ++ more) x = (operate b calls x).bind (operate b more) := by
  induction calls generalizing x with
  | nil => rfl
  | cons c rest ih =>
    obtain ⟨op, fuel⟩ := c
    obtain ⟨d, t, e⟩ := x
    simp only [List.cons_append, operate, Option.bind_assoc]
    exact Option.bind_congr fun o _ => ih _

/-- The exchange that an operation is, if it moves plaintext. -/
def Operation.exchanges (fuel : ℕ) : Operation → List Exchange
  | .send data => [.send data]
  | .recv limit => [.recv limit fuel]
  | .recvBuffer _ => [.recv recvChunk fuel]
  | _ => []

/-- **An operation that moves plaintext** is an exchange. -/
theorem run_eq_exchange {op : Operation} (h : op.room?.isSome) (d : Bytes) :
    (op.run b fuel t e).map (fun o => (d ++ op.gain o.1, o.2.1, o.2.2)) =
      exchange b (op.exchanges fuel) (d, t, e) := by
  cases op with
  | connect | connectWith | disconnect => cases h
  | send data =>
    simp [Operation.run_send, Operation.gain, Operation.exchanges, exchange, Exchange.run]
  | recv limit =>
    simp only [Operation.run, Operation.exchanges, exchange, Exchange.run, Option.map_map]
    cases t.recv b limit fuel e <;> rfl
  | recvBuffer buffer =>
    simp only [Operation.run, Operation.exchanges, exchange, Exchange.run, recvBuffer,
      Option.map_map]
    cases t.recv b recvChunk fuel e with
    | none => rfl
    | some o =>
      obtain ⟨x | data, t', e'⟩ := o <;> simp [Operation.gain, delivered]

theorem operate_eq_exchange {calls : List (Operation × ℕ)} (h : ∀ c ∈ calls, c.1.room?.isSome)
    (x : Progress ω σ κ) :
    operate b calls x = exchange b (calls.flatMap fun c => c.1.exchanges c.2) x := by
  induction calls generalizing x with
  | nil => rfl
  | cons c rest ih =>
    obtain ⟨op, fuel⟩ := c
    obtain ⟨d, t, e⟩ := x
    obtain ⟨hop, hrest⟩ := List.forall_mem_cons.mp h
    rw [List.flatMap_cons, exchange_append, ← run_eq_exchange hop, operate]
    cases op.run b fuel t e with
    | none => rfl
    | some o => exact ih hrest _

/-! ### The account of a series -/

theorem exchange_of_not_live {x : TransportError} (h : t.live = .error x) (calls : List Exchange)
    (d : Bytes) : exchange b calls (d, t, e) = some (d, t, e) := by
  induction calls with
  | nil => rfl
  | cons call rest ih =>
    cases call with
    | send data => simpa [exchange, Exchange.run, send, h] using ih
    | recv limit fuel => simpa [exchange, Exchange.run, recv, h, delivered] using ih

theorem intake_recorded (t : Transport σ κ) : t.recorded.intake = .empty := by
  obtain ⟨state, _ | l⟩ := t <;> rfl

/-- **The account of exchanges on any transport**, live or not. -/
theorem exchange_streams {t₀ : Transport σ κ} {e₀ : Env ω} {calls : List Exchange} {d : Bytes}
    (hx : exchange b calls ([], t₀, e₀) = some (d, t, e)) :
    ∃ u, exchange b.recording calls ([], t₀.recorded, e₀) = some (d, u, e) ∧
      u.mapCore Prod.fst = t ∧ d ++ t.unread = t₀.unread ++ u.intake.plaintext := by
  cases hl : t₀.live with
  | error x =>
    have hl' : t₀.recorded.live = .error x := by
      rw [recorded, live_mapCore, hl]
      rfl
    rw [exchange_of_not_live hl] at hx
    cases hx
    refine ⟨t.recorded, exchange_of_not_live hl' calls [], mapCore_recorded t, ?_⟩
    rw [intake_recorded]
    exact (List.append_nil _).symm
  | ok l₀ =>
    have hp : b.protocol.recording.Projects Prod.fst b.protocol := b.protocol.annotated_projects _
    rw [← mapCore_recorded t₀, exchange_project hp, Option.map_eq_some_iff] at hx
    obtain ⟨⟨d', u, e₁⟩, hx, he⟩ := hx
    simp only [Prod.mk.injEq] at he
    obtain ⟨rfl, rfl, rfl⟩ := he
    obtain ⟨s, hs, ha⟩ := exchange_accounted hl hx
    have hu := (live_eq_ok_iff.mp hs).2
    have h₀ := (live_eq_ok_iff.mp hl).2
    refine ⟨u, hx, rfl, ?_⟩
    simp only [unread, intake, mapCore, hu, h₀, Option.map_some, Option.getD_some]
    exact ha.plaintext

/-- **The plaintext of a series of calls** that came to `d`, `t` and `e`: what waited at its start,
and then what the work on records brought. -/
def Streams (b : Backing ω σ κ) (t₀ : Transport σ κ) (e₀ : Env ω) (calls : List (Operation × ℕ))
    (d : Bytes) (t : Transport σ κ) (e : Env ω) (stream : Bytes) : Prop :=
  ∃ u, operate b.recording calls ([], t₀.recorded, e₀) = some (d, u, e) ∧
    u.mapCore Prod.fst = t ∧ stream = t₀.unread ++ u.intake.plaintext

/-- **What the caller got and what waits is the plaintext.** -/
theorem operate_streams {t₀ : Transport σ κ} {e₀ : Env ω} {calls : List (Operation × ℕ)}
    (hc : ∀ c ∈ calls, c.1.room?.isSome) {d : Bytes}
    (hx : operate b calls ([], t₀, e₀) = some (d, t, e)) :
    Streams b t₀ e₀ calls d t e (d ++ t.unread) := by
  rw [operate_eq_exchange hc] at hx
  obtain ⟨u, hu, ht, hs⟩ := exchange_streams hx
  exact ⟨u, by rw [operate_eq_exchange hc, hu], ht, hs⟩

/-! ### The next call -/

/-- **What a receive does to a buffer** after calls that delivered `d`. -/
structure Appends (b : Backing ω σ κ) (t₀ : Transport σ κ) (e₀ : Env ω)
    (calls : List (Operation × ℕ)) (d : Bytes) (t : Transport σ κ) (e : Env ω) (fuel : ℕ)
    (buffer : Bytes) (r : Except TransportError ℕ) (buffer' : Bytes) (t' : Transport σ κ)
    (e' : Env ω) : Prop where
  /-- It is grown, overwritten and cut back to this. -/
  grown : recvGrown b fuel buffer t e = some (r, buffer', t', e')
  /-- What a receive with room for a chunk delivers is appended. -/
  received : ∃ q, t.recv b recvChunk fuel e = some (q, t', e') ∧ r = q.map List.length ∧
    buffer' = buffer ++ delivered q
  kept : buffer <+: buffer'
  length : buffer'.length = buffer.length + counted r
  bounded : counted r ≤ 4096
  /-- The octets that are appended come next in the plaintext, and what waits comes after them. -/
  next : ∃ stream,
    Streams b t₀ e₀ (calls ++ [(.recvBuffer buffer, fuel)]) (d ++ buffer'.drop buffer.length) t' e'
      stream ∧
    buffer'.drop buffer.length = (stream.drop d.length).take (counted r) ∧
    d ++ buffer'.drop buffer.length ++ t'.unread = stream

/-- **Receives append what they deliver.** Let anything be sent and received over a transport in any
state, with slices and buffers of any size. What the caller got of the plaintext so far, followed by
what waits for the reader, is the plaintext. A receive into a buffer then leaves the buffer as it
was, with the next octets of the plaintext behind it: as many as it counts, at most 4096, and none
if it fails. -/
theorem recvBuffer_appends {t₀ : Transport σ κ} {e₀ : Env ω} {calls : List (Operation × ℕ)}
    (hc : ∀ c ∈ calls, c.1.room?.isSome) {d : Bytes}
    (hx : operate b calls ([], t₀, e₀) = some (d, t, e)) :
    Streams b t₀ e₀ calls d t e (d ++ t.unread) ∧
      ∀ {fuel buffer r buffer' t' e'}, t.recvBuffer b fuel buffer e = some (r, buffer', t', e') →
        Appends b t₀ e₀ calls d t e fuel buffer r buffer' t' e' := by
  refine ⟨operate_streams hc hx, fun {fuel buffer r buffer' t' e'} hr => ?_⟩
  obtain ⟨q, hq, hrq, hb⟩ := recvBuffer_eq_some hr
  have hcount : counted r = (delivered q).length := by rw [hrq, counted_map_length]
  have hdrop : buffer'.drop buffer.length = delivered q := by rw [hb, List.drop_left]
  have hcalls : ∀ c ∈ calls ++ [(.recvBuffer buffer, fuel)], c.1.room?.isSome := by
    simpa [or_imp, forall_and, Operation.room?] using hc
  have hx' : operate b (calls ++ [(.recvBuffer buffer, fuel)]) ([], t₀, e₀) =
      some (d ++ buffer'.drop buffer.length, t', e') := by
    rw [operate_append, hx, Option.bind_some, operate, Operation.run, hr]
    rfl
  refine ⟨by rw [recvGrown_eq, hr], ⟨q, hq, hrq, hb⟩, hb ▸ List.prefix_append _ _, ?_, ?_,
    _, operate_streams hcalls hx', ?_, rfl⟩
  · rw [hb, List.length_append, hcount]
  · rw [hcount]
    exact recv_fits hq
  · rw [hdrop, hcount, List.append_assoc, List.drop_left, List.take_left]

/-- An octet waits and goes into a slice of one, two come later and go behind what is in a buffer. -/
theorem recvBuffer_appends_two :
    ∃ (t₀ t t' : Transport Bytes Unit) (e₀ e e' : Env Script) (stream : Bytes),
      operate (Script.backing .plain) [(.recv 1, 4)] ([], t₀, e₀) = some ([104], t, e) ∧
      t.recvBuffer (Script.backing .plain) 4 [9] e = some (.ok 2, [9, 105, 33], t', e') ∧
      Streams (Script.backing .plain) t₀ e₀ [(.recv 1, 4), (.recvBuffer [9], 4)] [104, 105, 33]
        t' e' stream ∧ [104, 105, 33] <+: stream := by
  let t₀ : Transport Bytes Unit := ⟨.connected, some ⟨(), ⟨[], [], [104], false, false, none⟩⟩⟩
  let e₀ : Env Script :=
    Script.inEnv ⟨.const (.ok 1), .cons (.ok [105, 33]) (.const (.ok [])), []⟩
  have hrun : (operate (Script.backing .plain) [(.recv 1, 4)] ([], t₀, e₀)).map Prod.fst =
      some [104] := by decide +kernel
  have hrecv : ((operate (Script.backing .plain) [(.recv 1, 4)] ([], t₀, e₀)).bind fun x =>
      x.2.1.recvBuffer (Script.backing .plain) 4 [9] x.2.2).map (fun o => (o.1, o.2.1)) =
      some (.ok 2, [9, 105, 33]) := by decide +kernel
  obtain ⟨⟨d, t, e⟩, hx, rfl⟩ := Option.map_eq_some_iff.mp hrun
  rw [hx, Option.bind_some] at hrecv
  obtain ⟨⟨r, buffer', t', e'⟩, hr, he⟩ := Option.map_eq_some_iff.mp hrecv
  simp only [Prod.mk.injEq] at he
  obtain ⟨rfl, rfl⟩ := he
  have hc : ∀ c ∈ [((.recv 1 : Operation), 4)], c.1.room?.isSome := by decide
  obtain ⟨stream, hs, -, hstream⟩ := ((recvBuffer_appends hc hx).2 hr).next
  exact ⟨t₀, t, t', e₀, e, e', stream, hx, hr, hs, t'.unread, hstream⟩

end SecureStream.Transport
