import SecureStream.Proofs.Session.Flush
import SecureStream.Transport.Exchange
import Mathlib.Algebra.BigOperators.Group.List.Basic
import Mathlib.Algebra.Ring.Int.Defs

/-! # Counting the open sockets of a journal

A call that opened a socket counts one, a close minus one (`openSockets`). An environment leads to
a later one (`Env.Leads n e m e'`) if the calls entered in between bring the count from `n` to `m`
and leave at no moment fewer than none or more than one socket open. Such stretches are put together
by `Leads.trans`; all that sending, receiving and shaking hands enter is a stretch from one open
socket to one (`exchange_keeps`). -/

namespace SecureStream

/-- How a call changes the number of open sockets. -/
def SocketCall.balance (c : SocketCall) : ℤ :=
  match c.request, c.reply with
  | .socket .., .done => 1
  | .close, _ => -1
  | _, _ => 0

/-- **The sockets that were opened and not closed** in a run of calls. -/
def openSockets (calls : List SocketCall) : ℤ := (calls.map SocketCall.balance).sum

@[simp] theorem openSockets_nil : openSockets [] = 0 := rfl

@[simp] theorem openSockets_append (l l' : List SocketCall) :
    openSockets (l ++ l') = openSockets l + openSockets l' := by
  simp [openSockets]

@[simp] theorem openSockets_singleton (c : SocketCall) : openSockets [c] = c.balance := by
  simp [openSockets]

namespace Env

variable {ω κ : Type}

/-- **From `n` open sockets in `e` to `m` in `e'`**, by way of calls of which each leaves none or
one open. -/
def Leads (n : ℤ) (e : Env ω) (m : ℤ) (e' : Env ω) : Prop :=
  ∃ l, e'.journal.calls.toList = e.journal.calls.toList ++ l ∧ n + openSockets l = m ∧
    ∀ k, 0 ≤ n + openSockets (l.take k) ∧ n + openSockets (l.take k) ≤ 1

theorem Leads.of_calls_eq {n : ℤ} {e e' : Env ω} (hn : 0 ≤ n ∧ n ≤ 1)
    (h : e'.journal.calls = e.journal.calls) : Leads n e n e' := by
  refine ⟨[], by rw [h, List.append_nil], by simp, fun k => ?_⟩
  simpa using hn

theorem Leads.of_call {n m : ℤ} {e e' : Env ω} {c : SocketCall} (hn : 0 ≤ n ∧ n ≤ 1)
    (hm : 0 ≤ m ∧ m ≤ 1) (hc : n + c.balance = m)
    (h : e'.journal.calls = e.journal.calls.push c) : Leads n e m e' := by
  refine ⟨[c], by rw [h, Array.toList_push], by simpa using hc, fun k => ?_⟩
  cases k with
  | zero => simpa using hn
  | succ k =>
    rw [List.take_succ_cons, List.take_nil, openSockets_singleton, hc]
    exact hm

/-- **One stretch behind the other.** -/
theorem Leads.trans {n m k : ℤ} {e f g : Env ω} (h : Leads n e m f) (h' : Leads m f k g) :
    Leads n e k g := by
  obtain ⟨l, hl, hm, hp⟩ := h
  obtain ⟨l', hl', hk, hp'⟩ := h'
  refine ⟨l ++ l', by rw [hl', hl, List.append_assoc], ?_, fun j => ?_⟩
  · rw [openSockets_append]; omega
  · rw [List.take_append, openSockets_append]
    rcases Nat.le_total j l.length with hj | hj
    · rw [Nat.sub_eq_zero_of_le hj, List.take_zero, openSockets_nil, add_zero]
      exact hp j
    · have := hp' (j - l.length)
      rw [List.take_of_length_le hj]; omega

theorem Leads.congr {n m : ℤ} {e f g : Env ω} (h : Leads n e m f)
    (hg : g.journal.calls = f.journal.calls) : Leads n e m g := by
  obtain ⟨l, hl, hm, hp⟩ := h
  exact ⟨l, by rw [hg, hl], hm, hp⟩

/-! ### One call -/

theorem Leads.entered {α : Type} {request : SocketRequest} {done : α → SocketReply}
    {r : Except IoError α × ω} {e : Env ω} (h : ∀ reply, (SocketCall.mk request reply).balance = 0)
    {n : ℤ} (hn : 0 ≤ n ∧ n ≤ 1) : Leads n e n (e.entered request done r).2 :=
  .of_call (c := ⟨request, replyOf done r.1⟩) hn hn (by rw [h, add_zero]) rfl

theorem Leads.opened {i : Sockets ω κ} {family : AddressFamily} {socket : κ} {e e' : Env ω}
    (h : e.socket i family = (.ok socket, e')) : Leads 0 e 1 e' := by
  obtain ⟨hr, rfl⟩ := Prod.mk.inj h
  refine .of_call (c := ⟨.socket family .stream .tcp, .done⟩) (by omega) (by omega) rfl ?_
  simp [Journal.call, replyOf, hr]

theorem Leads.not_opened {i : Sockets ω κ} {family : AddressFamily} {x : IoError} {e e' : Env ω}
    (h : e.socket i family = (.error x, e')) : Leads 0 e 0 e' := by
  obtain ⟨hr, rfl⟩ := Prod.mk.inj h
  refine .of_call (c := ⟨.socket family .stream .tcp, .failed x.kind⟩) (by omega) (by omega) rfl ?_
  simp [Journal.call, replyOf, hr]

theorem Leads.closed (i : Sockets ω κ) (socket : κ) (e : Env ω) : Leads 1 e 0 (e.close i socket) :=
  .of_call (c := ⟨.close, .done⟩) (by omega) (by omega) rfl rfl

/-- **Using one open socket keeps the count.** -/
theorem exchange_keeps (i : Sockets ω κ) (s : κ) :
    (Env.stream i s).Keeps fun e e' => Leads 1 e 1 e' := by
  refine ByteStream.Keeps.normalised ⟨fun e => ?_, Leads.trans, fun limit e => ?_, fun b e => ?_⟩
  · exact .of_calls_eq (by omega) rfl
  · exact .entered (fun _ => rfl) (by omega)
  · exact .entered (fun _ => rfl) (by omega)

theorem clock_keeps (c : Clock ω) : c.inEnv.Keeps fun e e' => Leads 1 e 1 e' :=
  ⟨fun _ => .of_calls_eq (by omega) rfl, fun _ _ => .of_calls_eq (by omega) rfl⟩

end Env

end SecureStream
