import SecureStream.Duration
import SecureStream.Session.Session

/-! # Driving a handshake

The handshake runs in steps: a step writes a record, or reads and works on what came, or finds that
all is done. A step that the stream was not ready for is repeated after a pause, which doubles from
one such step to the next and starts again after progress. A budget limits the time.

* `step`: one step.
* `drive`: the whole handshake. -/

namespace SecureStream

/-- The time of an environment, in nanoseconds. Looking at it may take time. -/
structure Clock (ε : Type) where
  now : ε → Nat × ε
  sleep : Duration → ε → ε

namespace Handshake

variable {σ ε : Type}

/-- What a step found. -/
inductive Step
  | progress
  | done
deriving DecidableEq, Repr

/-- **One step.** Records go first; a failure of the protocol is reported after one attempt to write
what it left to say. -/
def step (p : Protocol σ) (io : ByteStream ε) (s : Session σ) (e : ε) :
    Except StreamFault Step × Session σ × ε :=
  if s.wantsWrite then
    match s.writeTls io e with
    | (.ok 0, s, e) => (.error .wantWrite, s, e)
    | (.ok (_ + 1), s, e) => (.ok .progress, s, e)
    | (.error x, s, e) => (.error (.ofIoError x .send), s, e)
  else if !p.isHandshaking s.core then (.ok .done, s, e)
  else
    match s.readTls p io e with
    | (.ok 0, s, e) => (.error .unexpectedEof, s, e)
    | (.error x, s, e) => (.error (.ofIoError x .recv), s, e)
    | (.ok (_ + 1), s, e) =>
      match s.process p with
      | (.ok (), s) => (.ok .progress, s, e)
      | (.error x, s) =>
        if s.wantsWrite then
          match s.writeTls io e with
          | (_, s, e) => (.error (.tls x), s, e)
        else (.error (.tls x), s, e)

/-- The first pause, in milliseconds. -/
def initialPause : Nat := 1

/-- The longest pause, in milliseconds. -/
def maxPause : Nat := 50

/-- What a handshake took. -/
structure Stats where
  steps : Nat
  /-- The steps that were not ready. -/
  retries : Nat
  /-- In nanoseconds. -/
  elapsed : Nat
deriving DecidableEq, Repr

/-- The outcome of a handshake. -/
abbrev Outcome (σ ε : Type) := Except StreamFault Stats × Session σ × ε

/-- Goes on from a number of steps and retries. -/
def driveFrom (p : Protocol σ) (io : ByteStream ε) (clock : Clock ε) (budget : Option Duration)
    (started : Nat) :
    (fuel : Nat) → (steps retries pause : Nat) → Session σ → ε → Option (Outcome σ ε)
  | 0, _, _, _, _, _ => none
  | fuel + 1, steps, retries, pause, s, e =>
    match step p io s e with
    | (.ok .done, s, e) =>
      let (now, e) := clock.now e
      some (.ok ⟨steps + 1, retries, now - started⟩, s, e)
    | (.ok .progress, s, e) =>
      driveFrom p io clock budget started fuel (steps + 1) retries initialPause s e
    | (.error f, s, e) =>
      if f.isRetryable then
        let again (e : ε) :=
          driveFrom p io clock budget started fuel (steps + 1) (retries + 1)
            (min (2 * pause) maxPause) s (clock.sleep (.ofMillis pause) e)
        match budget with
        | none => again e
        | some limit =>
          let (now, e) := clock.now e
          if limit.nanoseconds ≤ now - started then some (.error .timeout, s, e) else again e
      else some (.error f, s, e)

/-- **Runs a handshake** to its end. `none` if `fuel` steps are not enough. -/
def drive (p : Protocol σ) (io : ByteStream ε) (clock : Clock ε) (budget : Option Duration)
    (fuel : Nat) (s : Session σ) (e : ε) : Option (Outcome σ ε) :=
  let (started, e) := clock.now e
  driveFrom p io clock budget started fuel 0 0 initialPause s e

end Handshake

end SecureStream
