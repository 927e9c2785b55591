import SecureStream.TransportError
import SecureStream.Journal

/-! # The shared runtime

The cryptographic provider is shared by all connections of a process. It is built when the first
guard is taken and given back when the last guard goes; in between every connection sees the same
one.

* `acquire`, `release`: take and return a guard.
* `provider?`, `guards`: what is installed, and for how many guards. -/

namespace SecureStream

/-- A provider in use. -/
structure Installed (π : Type) where
  guards : Nat
  provider : π
  guards_pos : 0 < guards := by omega
deriving DecidableEq

/-- **The runtime of a process**: empty, or a provider with the number of its guards. -/
structure Registry (π : Type) where
  installed : Option (Installed π)
deriving DecidableEq

namespace Registry

variable {π : Type}

/-- Nothing is installed. -/
def empty : Registry π := ⟨none⟩

/-- The number of guards taken and not returned. -/
def guards (r : Registry π) : Nat := (r.installed.map Installed.guards).getD 0

/-- The provider for a new connection. -/
def provider? (r : Registry π) : Option π := r.installed.map Installed.provider

/-- **A provider is installed exactly while there are guards.** -/
theorem provider?_eq_none_iff {r : Registry π} : r.provider? = none ↔ r.guards = 0 := by
  obtain ⟨_ | i⟩ := r
  · exact ⟨fun _ => rfl, fun _ => rfl⟩
  · have := i.guards_pos
    simp only [provider?, guards, Option.map_some, Option.getD_some, reduceCtorEq, false_iff]
    omega

/-- Takes a guard. `build` makes the provider if there is none yet; where that fails nothing
changes. -/
def acquire (r : Registry π) (build : Except TransportError π) :
    Except TransportError (Registry π) :=
  match r.installed with
  | some i => .ok ⟨some ⟨i.guards + 1, i.provider, Nat.succ_pos _⟩⟩
  | none => build.map fun p => ⟨some ⟨1, p, Nat.one_pos⟩⟩

/-- Returns a guard. Without one this has no effect. -/
def release (r : Registry π) : Registry π :=
  match r.installed with
  | none => r
  | some i =>
    if h : i.guards = 1 then empty
    else ⟨some ⟨i.guards - 1, i.provider, by have := i.guards_pos; omega⟩⟩

theorem guards_release (r : Registry π) : r.release.guards = r.guards - 1 := by
  obtain ⟨_ | i⟩ := r
  · rfl
  · simp only [release]
    split
    · next h => simp [guards, empty, h]
    · rfl

/-- The provider in another state, for as many guards. -/
def withProvider (r : Registry π) (p : π) : Registry π :=
  ⟨r.installed.map fun i => { i with provider := p }⟩

end Registry

/-! ### Entropy -/

/-- A source of random bytes: it never fails, or it works a number of times and then no more. -/
inductive Entropy
  | lasting
  | limited (draws : Nat)
deriving DecidableEq, Repr

namespace Entropy

/-- One draw. -/
def draw? : Entropy → Option Entropy
  | lasting => some lasting
  | limited 0 => none
  | limited (n + 1) => some (limited n)

/-- A number of draws in a row, up to the first that fails. The result tells whether all worked. -/
def drawMany : Nat → Entropy → Bool × Entropy
  | 0, e => (true, e)
  | n + 1, e =>
    match e.draw? with
    | some e => drawMany n e
    | none => (false, e)

/-- What is reported when the source fails its first draw. -/
def seedFailure : TransportError := .internal "entropy source failed to produce random bytes"

/-- The log event of a source that fails its first draw. -/
def seedFailureEvent : LogEvent := .failure "failed to seed random number generator" []

end Entropy

/-- **Takes a guard with a source of random bytes.** The source counts only if it raises the number
of guards from zero; then it has to work once, and the provider keeps what is left of it. -/
def Registry.acquireSeeded {π : Type} (r : Registry π) (source : Entropy) (build : Entropy → π) :
    Except TransportError (Registry π) × List LogEvent :=
  match r.installed with
  | some _ => (r.acquire (.ok (build source)), [])
  | none =>
    match source.draw? with
    | some left => (r.acquire (.ok (build left)), [])
    | none => (r.acquire (.error Entropy.seedFailure), [Entropy.seedFailureEvent])

end SecureStream
