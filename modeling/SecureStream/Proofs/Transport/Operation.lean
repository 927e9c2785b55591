import SecureStream.Transport.Exchange
import Mathlib.Tactic.Common

/-! # Runs of operations

What a caller can do with one transport (`Operation`), what it comes to (`Operation.run`), and the
transports and environments that come about so (`Reachable`). Whatever else goes on between two
operations may change the world, the runtime and the journal, but it makes no call for this
transport. -/

namespace SecureStream.Transport

variable {ω σ κ : Type}

/-- **What a caller does with a transport.** -/
inductive Operation
  | connect (host : String) (port : ℕ) (c : Credentials) (recvTimeout sendTimeout : Duration)
  | connectWith (host : String) (port : ℕ) (c : Credentials) (config : TransportConfig)
  | send (data : Bytes)
  | recv (limit : ℕ)
  | recvBuffer (buffer : Bytes)
  | disconnect

/-- What the caller is told. -/
inductive Answer
  | connected (r : Except TransportError Unit)
  | sent (r : Except TransportError ℕ)
  | received (r : Except TransportError Bytes)
  | appended (r : Except TransportError ℕ) (buffer : Bytes)
  | disconnected

/-- How many octets the caller is told to have been moved, or why none were. `none` if no octets were
to be moved. -/
def Answer.count? : Answer → Option (Except TransportError ℕ)
  | .sent r | .appended r _ => some r
  | .received r => some (r.map List.length)
  | _ => none

/-- The configuration of a connect that is given two timeouts only. -/
def configOf (recvTimeout sendTimeout : Duration) : TransportConfig :=
  .build [.recvTimeout recvTimeout, .sendTimeout sendTimeout]

/-- **Does one thing.** `none` if `fuel` is not enough for it to end. -/
def Operation.run (b : Backing ω σ κ) (fuel : ℕ) (t : Transport σ κ) (e : Env ω) :
    Operation → Option (Answer × Transport σ κ × Env ω)
  | .connect host port c recvTimeout sendTimeout =>
    (t.connect b host port c (configOf recvTimeout sendTimeout) fuel e).map fun
      | (r, t, e) => (.connected r, t, e)
  | .connectWith host port c config =>
    (t.connect b host port c config fuel e).map fun | (r, t, e) => (.connected r, t, e)
  | .send data => match t.send b data e with | (r, t, e) => some (.sent r, t, e)
  | .recv limit => (t.recv b limit fuel e).map fun | (r, t, e) => (.received r, t, e)
  | .recvBuffer buffer =>
    (t.recvBuffer b fuel buffer e).map fun | (r, buffer, t, e) => (.appended r buffer, t, e)
  | .disconnect => match t.disconnect b e with | (t, e) => some (.disconnected, t, e)

theorem Operation.run_send (b : Backing ω σ κ) (fuel : ℕ) (t : Transport σ κ) (e : Env ω)
    (data : Bytes) :
    run b fuel t e (.send data) =
      some (.sent (t.send b data e).1, (t.send b data e).2.1, (t.send b data e).2.2) := rfl

theorem Operation.run_disconnect (b : Backing ω σ κ) (fuel : ℕ) (t : Transport σ κ) (e : Env ω) :
    run b fuel t e .disconnect =
      some (.disconnected, (t.disconnect b e).1, (t.disconnect b e).2) := rfl

/-- **What comes about when a transport that was allocated in `e₀` is used.** -/
inductive Reachable (b : Backing ω σ κ) (e₀ : Env ω) : Transport σ κ → Env ω → Prop
  | allocated : Reachable b e₀ allocated e₀
  | step {t e op fuel a t' e'} (h : Reachable b e₀ t e)
      (ho : Operation.run b fuel t e op = some (a, t', e')) : Reachable b e₀ t' e'
  | meanwhile {t e e'} (h : Reachable b e₀ t e) (hc : e'.journal.calls = e.journal.calls) :
    Reachable b e₀ t e'

end SecureStream.Transport
