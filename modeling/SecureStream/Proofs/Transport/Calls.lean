import SecureStream.Proofs.Transport.Exchange

/-! # The calls that are added to a journal

From one environment to a later one the journal grows by calls. `Env.Adds P` says that the requests
of those in between all satisfy `P`. A send and a receive on a session add sends and receives and
nothing else (`sendOn_keeps`, `recvOn_keeps` with `Env.adds_keeps`). -/

namespace SecureStream

namespace Env

variable {ω κ : Type} {P : SocketRequest → Prop}

/-- **Every call from `e` to `e'` has a request with `P`.** -/
def Adds (P : SocketRequest → Prop) (e e' : Env ω) : Prop :=
  ∃ l, e'.journal.calls.toList = e.journal.calls.toList ++ l ∧ ∀ c ∈ l, P c.request

theorem Adds.of_calls_eq {e e' : Env ω} (h : e'.journal.calls = e.journal.calls) : Adds P e e' :=
  ⟨[], by rw [h, List.append_nil], by simp⟩

theorem Adds.of_push {e e' : Env ω} {c : SocketCall} (hc : P c.request)
    (h : e'.journal.calls = e.journal.calls.push c) : Adds P e e' := by
  refine ⟨[c], by rw [h, Array.toList_push], fun d hd => ?_⟩
  rw [List.mem_singleton.mp hd]
  exact hc

theorem Adds.trans {e f g : Env ω} (h : Adds P e f) (h' : Adds P f g) : Adds P e g := by
  obtain ⟨l, hl, hp⟩ := h
  obtain ⟨l', hl', hp'⟩ := h'
  refine ⟨l ++ l', by rw [hl', hl, List.append_assoc], fun c hc => ?_⟩
  rcases List.mem_append.mp hc with hc | hc
  · exact hp c hc
  · exact hp' c hc

theorem Adds.congr {e f g : Env ω} (h : Adds P e f) (hg : g.journal.calls = f.journal.calls) :
    Adds P e g :=
  h.trans (.of_calls_eq hg)

theorem Adds.mono {Q : SocketRequest → Prop} {e e' : Env ω} (h : Adds P e e')
    (hq : ∀ r, P r → Q r) : Adds Q e e' := by
  obtain ⟨l, hl, hp⟩ := h
  exact ⟨l, hl, fun c hc => hq _ (hp c hc)⟩

theorem Adds.entered {α : Type} {request : SocketRequest} (done : α → SocketReply)
    (r : Except IoError α × ω) (e : Env ω) (h : P request) :
    Adds P e (e.entered request done r).2 :=
  .of_push (c := ⟨request, replyOf done r.1⟩) h rfl

/-- A request that moves plaintext or records. -/
def Exchanges (r : SocketRequest) : Prop := r = .send ∨ r = .recv

/-- **Using a connected socket** adds sends and receives. -/
theorem adds_keeps (i : Sockets ω κ) (s : κ) (hs : P .send) (hr : P .recv) :
    Env.Keeps i s (Adds P) where
  stream := ByteStream.Keeps.normalised
    ⟨fun _ => .of_calls_eq rfl, Adds.trans, fun _ _ => .entered _ _ _ hr,
      fun _ _ => .entered _ _ _ hs⟩
  log _ _ := .of_calls_eq rfl
  count _ _ _ := .of_calls_eq rfl

end Env

end SecureStream
