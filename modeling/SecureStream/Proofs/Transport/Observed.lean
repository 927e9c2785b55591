import SecureStream.Proofs.Transport.Simulation

/-! # Runs that are observed

To speak of what is done on one socket, and of all that a protocol produced, both are written down:
every call on a socket goes into a list with the number of the socket (`Use`, `Sockets.observed`),
and the state of the protocol carries all records since its start (`Protocol.producing`). Apart from
that nothing changes (`Backing.observed_refines`), so every run is what an observed run comes to
(`Runs.observed`). -/

namespace SecureStream

variable {ω σ κ : Type}

/-! ### What is written down -/

/-- **A call on a socket.** -/
structure Use where
  /-- The number of the socket; there is none where it could not be opened. -/
  socket : Option ℕ
  call : SocketCall
  /-- The octets that a send took. -/
  taken : Bytes
deriving DecidableEq

/-- What is taken of octets that are sent. -/
def takenOf (b : Bytes) : Except IoError ℕ → Bytes
  | .ok n => b.take n
  | .error _ => []

/-- A call on the socket with a number. -/
def useOf {α : Type} (n : ℕ) (request : SocketRequest) (done : α → SocketReply)
    (r : Except IoError α) : Use :=
  ⟨some n, ⟨request, Env.replyOf done r⟩, []⟩

/-- The opening of a socket, whose number is that of the calls before. -/
def opening {α : Type} (uses : List Use) (request : SocketRequest) (r : Except IoError α) : Use :=
  ⟨match r with | .ok _ => some uses.length | .error _ => none,
    ⟨request, Env.replyOf (fun _ => .done) r⟩, []⟩

/-- **Sockets with a list of all calls.** -/
def Sockets.observed (i : Sockets ω κ) : Sockets (ω × List Use) (κ × ℕ) where
  socket family kind protocol w :=
    let r := i.socket family kind protocol w.1
    (r.1.map fun k => (k, w.2.length), r.2,
      w.2 ++ [opening w.2 (.socket family kind protocol) r.1])
  setOption s option w :=
    let r := i.setOption s.1 option w.1
    (r.1, r.2, w.2 ++ [useOf s.2 (.setOption option) (fun _ => .done) r.1])
  connect s host port w :=
    let r := i.connect s.1 host port w.1
    (r.1, r.2, w.2 ++ [useOf s.2 (.connect host port) (fun _ => .done) r.1])
  send s b w :=
    let r := i.send s.1 b w.1
    (r.1, r.2, w.2 ++
      [{ useOf s.2 .send (fun n => if n = 0 then .nothing else .done) r.1 with
        taken := takenOf b r.1 }])
  recv s limit w :=
    let r := i.recv s.1 limit w.1
    (r.1, r.2,
      w.2 ++ [useOf s.2 .recv (fun b : Bytes => if b.isEmpty then .nothing else .done) r.1])
  close s w := (i.close s.1 w.1, w.2 ++ [⟨some s.2, ⟨.close, .done⟩, []⟩])

/-- **A protocol with all records that it produced** since it was started. -/
def Protocol.producing (p : Protocol σ) : Protocol (σ × Bytes) :=
  p.annotated
    { start := List.flatten
      process := fun note r => note ++ r.records.flatten
      write := fun note _ w => note ++ w.records.flatten
      closeNotify := fun note records => note ++ records.flatten }

/-- Sockets and protocol with what is written down of them. -/
def Backing.observed (b : Backing ω σ κ) : Backing (ω × List Use) (σ × Bytes) (κ × ℕ) where
  sockets := b.sockets.observed
  protocol := b.protocol.producing
  clock :=
    ⟨fun w => ((b.clock.now w.1).1, (b.clock.now w.1).2, w.2),
      fun d w => (b.clock.sleep d w.1, w.2)⟩

/-- **Writing things down changes nothing else.** -/
theorem Backing.observed_refines (b : Backing ω σ κ) :
    b.observed.Refines Prod.fst Prod.fst Prod.fst b where
  sockets := by
    refine ⟨fun family kind protocol w => ?_, fun _ _ _ => rfl, fun _ _ _ _ => rfl,
      fun _ _ _ => rfl, fun _ _ _ => rfl, fun _ _ => rfl⟩
    simp only [observed, Sockets.observed]
    rcases b.sockets.socket family kind protocol w.1 with ⟨_ | _, _⟩ <;> rfl
  protocol := b.protocol.annotated_refines _
  clock := ⟨fun _ => rfl, fun _ _ => rfl⟩

namespace Env

/-- The calls that were written down. -/
def uses (e : Env (ω × List Use)) : List Use := e.world.2

/-- Begins to write down. -/
def watched (e : Env ω) : Env (ω × List Use) := ⟨(e.world, []), e.runtime, e.journal⟩

/-- Leaves out what was written down. -/
def unwatched : Env (ω × List Use) → Env ω := map Prod.fst

/-- No call is made for the transport. -/
def Quiet (e e' : Env ω) : Prop := e'.journal.calls = e.journal.calls

/-- No call is made, and none is written down. -/
def Silent (e e' : Env (ω × List Use)) : Prop := Quiet e e' ∧ e'.uses = e.uses

end Env

namespace Transport

/-- Leaves out what was written down. -/
def unwatched : Transport (σ × Bytes) (κ × ℕ) → Transport σ κ := map Prod.fst Prod.fst

/-! ### Runs -/

/-- **An operation that was run**, with the environments before and after. -/
structure Ran (ω : Type) where
  operation : Operation
  before : Env ω
  after : Env ω

/-- Leaves out what was written down. -/
def Ran.unwatched (r : Ran (ω × List Use)) : Ran ω :=
  ⟨r.operation, r.before.unwatched, r.after.unwatched⟩

/-- **Operations one after the other**, on a transport that was allocated in `e₀`. `A` is what may
go on aside. -/
inductive Runs (b : Backing ω σ κ) (A : Env ω → Env ω → Prop) (e₀ : Env ω) :
    List (Ran ω) → Transport σ κ → Env ω → Prop
  | allocated : Runs b A e₀ [] allocated e₀
  | step {l t e op fuel a t' e'} (h : Runs b A e₀ l t e)
      (ho : Operation.run b fuel t e op = some (a, t', e')) :
      Runs b A e₀ (l ++ [⟨op, e, e'⟩]) t' e'
  | aside {l t e e'} (h : Runs b A e₀ l t e) (ha : A e e') : Runs b A e₀ l t e'

variable {b : Backing ω σ κ}

theorem Runs.reachable {A : Env ω → Env ω → Prop} {e₀ e : Env ω} {l : List (Ran ω)}
    {t : Transport σ κ} (hA : ∀ e e', A e e' → e'.journal.calls = e.journal.calls)
    (h : Runs b A e₀ l t e) : Reachable b e₀ t e := by
  induction h with
  | allocated => exact .allocated
  | step _ ho ih => exact .step ih ho
  | aside _ ha ih => exact .meanwhile ih (hA _ _ ha)

/-- **Every run is what an observed run comes to.** -/
theorem Runs.observed {e₀ e : Env ω} {l : List (Ran ω)} {t : Transport σ κ}
    (h : Runs b Env.Quiet e₀ l t e) :
    ∃ l' t' e', Runs b.observed Env.Silent e₀.watched l' t' e' ∧ l'.map Ran.unwatched = l ∧
      t'.unwatched = t ∧ e'.unwatched = e := by
  induction h with
  | allocated => exact ⟨[], Transport.allocated, e₀.watched, .allocated, rfl, rfl, rfl⟩
  | @step l t e op fuel a t₁ e₁ _ ho ih =>
    obtain ⟨l', t', e', hr, rfl, rfl, rfl⟩ := ih
    rw [unwatched, Env.unwatched, run_refines b.observed_refines] at ho
    obtain ⟨⟨a', t₂, e₂⟩, ho', hp⟩ := Option.map_eq_some_iff.mp ho
    cases hp
    exact ⟨_, t₂, e₂, .step hr ho', by rw [List.map_append]; rfl, rfl, rfl⟩
  | @aside l t e e₁ _ ha ih =>
    obtain ⟨l', t', e', hr, rfl, rfl, rfl⟩ := ih
    exact ⟨l', t', ⟨(e₁.world, e'.uses), e₁.runtime, e₁.journal⟩, .aside hr ⟨ha, rfl⟩,
      rfl, rfl, rfl⟩

end Transport

end SecureStream
