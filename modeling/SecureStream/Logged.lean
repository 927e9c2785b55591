import SecureStream.TransportError
import SecureStream.Journal

/-! # Results with a log

A computation that may fail and logs events on the way. What was logged before a failure stays. -/

namespace SecureStream

/-- **A result with the events logged on the way to it.** -/
structure Logged (α : Type) where
  result : Except TransportError α
  events : List LogEvent

namespace Logged

variable {α β : Type}

/-- A result without events. -/
def of (a : α) : Logged α := ⟨.ok a, []⟩

/-- A failure without events. -/
def fail (e : TransportError) : Logged α := ⟨.error e, []⟩

/-- A result or a failure, without events. -/
def ofExcept (r : Except TransportError α) : Logged α := ⟨r, []⟩

/-- One computation, then another that depends on its result. -/
def andThen (x : Logged α) (f : α → Logged β) : Logged β :=
  match x.result with
  | .error e => ⟨.error e, x.events⟩
  | .ok a => ⟨(f a).result, x.events ++ (f a).events⟩

theorem of_andThen (a : α) (f : α → Logged β) : (of a).andThen f = f a := rfl

instance : Monad Logged where
  pure := of
  bind := andThen

/-! ### Computations of two parts -/

theorem result_bind (x : Logged α) (f : α → Logged β) :
    (x >>= f).result = x.result.bind fun a => (f a).result := by
  obtain ⟨_ | a, events⟩ := x <;> rfl

theorem events_bind {x : Logged α} {a : α} (h : x.result = .ok a) (f : α → Logged β) :
    (x >>= f).events = x.events ++ (f a).events := by
  obtain ⟨r, events⟩ := x
  cases h
  rfl

/-- What stands behind a computation matters only where that succeeds. -/
theorem bind_congr {x : Logged α} {f g : α → Logged β}
    (h : ∀ a, x.result = .ok a → f a = g a) : x >>= f = x >>= g := by
  obtain ⟨_ | a, events⟩ := x
  · rfl
  · exact congrArg (fun y : Logged β => (⟨y.result, events ++ y.events⟩ : Logged β)) (h a rfl)

end Logged

end SecureStream
