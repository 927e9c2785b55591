import SecureStream.Proofs.Transport.Calls
import SecureStream.Proofs.Transport.Lifecycle
import Mathlib.Logic.Relation

/-! # The stages of a connect

A connect that has its arguments and a transport without a session goes from stage to stage
(`Connecting`, `advance`): it opens a socket, sets the two timeouts, connects the socket, asks for
the provider of the runtime, sets a session up, starts it and shakes hands. A stage that fails ends
it; the socket, if there is one, is closed then.

* `openSession_eq_ok_iff`, `openSession_eq_error_iff`: the stages decide, in their order.
* `passed_socket`: behind the first stage there is one socket, and it stays.
* `exists_fails_iff`: where a stage fails, and what that shows as. -/

namespace SecureStream.Transport

open Relation

variable {ω σ κ : Type}

/-- **How far a connect has come**, and with what. -/
inductive Connecting (σ κ : Type)
  | vacant
  | opened (socket : κ)
  | receiveLimited (socket : κ)
  | limited (socket : κ)
  | connected (socket : κ)
  | provided (socket : κ) (provider : Provider)
  | configured (socket : κ) (provider : Provider) (setup : SessionSetup)
  | started (socket : κ) (tls : Session σ)
  | ready (socket : κ) (tls : Session σ)

namespace Connecting

/-- The socket that was opened. -/
def socket? : Connecting σ κ → Option κ
  | vacant => none
  | opened k | receiveLimited k | limited k | connected k | provided k _ | configured k _ _
  | started k _ | ready k _ => some k

/-- How many stages are left. -/
def left : Connecting σ κ → ℕ
  | vacant => 8
  | opened _ => 7
  | receiveLimited _ => 6
  | limited _ => 5
  | connected _ => 4
  | provided _ _ => 3
  | configured _ _ _ => 2
  | started _ _ => 1
  | ready _ _ => 0

/-- Closes the socket that was opened. -/
def release (b : Backing ω σ κ) (p : Connecting σ κ) (e : Env ω) : Env ω :=
  match p.socket? with
  | none => e
  | some k => e.close b.sockets k

end Connecting

section
variable (b : Backing ω σ κ) (host : String) (port : ℕ) (c : Credentials) (config : TransportConfig)
  (fuel : ℕ)

/-- **One stage**: what it brings, or the error that it shows as. Nothing is left after the last
one; `none` too if `fuel` steps are not enough for the handshake. -/
def advance : Connecting σ κ → Env ω → Option (Except TransportError (Connecting σ κ) × Env ω)
  | .vacant, e =>
    match e.socket b.sockets config.family with
    | (.ok k, e) => some (.ok (.opened k), e)
    | (.error x, e) => some (.error (.internal ("failed to create socket: " ++ x.message)), e)
  | .opened k, e =>
    match e.setOption b.sockets k (.recvTimeout config.recvTimeout.nonzero?) with
    | (.ok (), e) => some (.ok (.receiveLimited k), e)
    | (.error x, e) =>
      some (.error (.invalidParameter ("failed to set socket timeouts: " ++ x.message)), e)
  | .receiveLimited k, e =>
    match e.setOption b.sockets k (.sendTimeout config.sendTimeout.nonzero?) with
    | (.ok (), e) => some (.ok (.limited k), e)
    | (.error x, e) =>
      some (.error (.invalidParameter ("failed to set socket timeouts: " ++ x.message)), e)
  | .limited k, e =>
    match e.connect b.sockets k host port with
    | (.ok (), e) => some (.ok (.connected k), e)
    | (.error x, e) => some (.error (.connectFailure host port x), e)
  | .connected k, e =>
    match e.runtime.provider? with
    | some p => some (.ok (.provided k p), e)
    | none =>
      some (.error (.internal "TLS runtime is not initialised; call TlsRuntime::init first"), e)
  | .provided k p, e =>
    let setup := SessionSetup.configure p host c config
    match setup.result with
    | .ok s => some (.ok (.configured k p s), e.log setup.events)
    | .error x => some (.error x, e.log setup.events)
  | .configured k p setup, e =>
    let (r, source) := b.protocol.start setup p.entropy
    let e := { e with runtime := e.runtime.withProvider { p with entropy := source } }
    match r with
    | .ok (core, records) => some (.ok (.started k (.fresh core records)), e)
    | .error x => some (.error (.internal ("failed to create TLS session: " ++ x.message)), e)
  | .started k s, e =>
    (shakeHands b k config fuel s e).map fun (r, e) => (r.map (.ready k), e)
  | .ready _ _, _ => none

/-- A stage is passed. -/
def Passes (x y : Connecting σ κ × Env ω) : Prop :=
  advance b host port c config fuel x.1 x.2 = some (.ok y.1, y.2)

/-- **From `e₀` on all stages up to `p` were passed**, one after the other. -/
def Passed (e₀ : Env ω) (p : Connecting σ κ) (e : Env ω) : Prop :=
  ReflTransGen (Passes b host port c config fuel) (.vacant, e₀) (p, e)

/-- The next stage fails. -/
def Fails (p : Connecting σ κ) (e : Env ω) (x : TransportError) (e' : Env ω) : Prop :=
  advance b host port c config fuel p e = some (.error x, e')

/-- `n` stages in a row. -/
def pass : ℕ → Connecting σ κ → Env ω → Option (Except TransportError (Live σ κ) × Env ω)
  | 0, .ready k s, e => some (.ok ⟨k, s⟩, e)
  | 0, _, _ => none
  | n + 1, p, e =>
    match advance b host port c config fuel p e with
    | none => none
    | some (.error x, e) => some (.error x, p.release b e)
    | some (.ok q, e) => pass n q e

end

variable {b : Backing ω σ κ} {host : String} {port : ℕ} {c : Credentials} {config : TransportConfig}
  {fuel : ℕ}

/-! ### Passing through all of them -/

theorem left_of_passes {p q : Connecting σ κ} {e f : Env ω}
    (h : Passes b host port c config fuel (p, e) (q, f)) : p.left = q.left + 1 := by
  unfold Passes at h
  cases p with
  | vacant | opened | receiveLimited | limited | connected | provided | configured =>
    simp only [advance] at h
    split at h <;> cases h
    rfl
  | started k s =>
    obtain ⟨⟨x | s', e'⟩, -, ho⟩ := Option.map_eq_some_iff.mp h
    · cases (Prod.mk.inj ho).1
    · cases ho
      rfl
  | ready k s => cases h

theorem pass_of_passes {p q : Connecting σ κ} {e f : Env ω}
    (h : Passes b host port c config fuel (p, e) (q, f)) :
    pass b host port c config fuel p.left p e = pass b host port c config fuel q.left q f := by
  rw [left_of_passes h, pass]
  unfold Passes at h
  rw [h]

theorem pass_of_fails {p : Connecting σ κ} {e e' : Env ω} {x : TransportError}
    (h : Fails b host port c config fuel p e x e') :
    pass b host port c config fuel p.left p e = some (.error x, p.release b e') := by
  unfold Fails at h
  cases p with
  | ready k s => cases h
  | _ => rw [Connecting.left, pass, h]

/-- **The stages before `p` do not decide.** -/
theorem pass_of_passed {x y : Connecting σ κ × Env ω}
    (h : ReflTransGen (Passes b host port c config fuel) x y) :
    pass b host port c config fuel x.1.left x.1 x.2 =
      pass b host port c config fuel y.1.left y.1 y.2 := by
  induction h with
  | refl => rfl
  | tail _ h ih => exact ih.trans (pass_of_passes h)

/-- **Passing through the stages ends** with the last one or with the first that fails. -/
theorem end_of_pass {n : ℕ} {p : Connecting σ κ} {e e' : Env ω}
    {r : Except TransportError (Live σ κ)}
    (h : pass b host port c config fuel n p e = some (r, e')) :
    (∃ k s, ReflTransGen (Passes b host port c config fuel) (p, e) (.ready k s, e') ∧
      r = .ok ⟨k, s⟩) ∨
    ∃ q f x f', ReflTransGen (Passes b host port c config fuel) (p, e) (q, f) ∧
      Fails b host port c config fuel q f x f' ∧ r = .error x ∧ e' = q.release b f' := by
  induction n generalizing p e with
  | zero =>
    cases p with
    | ready k s =>
      cases h
      exact .inl ⟨k, s, .refl, rfl⟩
    | _ => cases h
  | succ n ih =>
    rw [pass] at h
    split at h
    · cases h
    · next x f hf =>
      cases h
      exact .inr ⟨p, e, x, f, .refl, hf, rfl, rfl⟩
    · next q f hf =>
      have hp : Passes b host port c config fuel (p, e) (q, f) := hf
      rcases ih h with ⟨k, s, hs, hr⟩ | ⟨q', f', x, f'', hs, hx⟩
      · exact .inl ⟨k, s, .head hp hs, hr⟩
      · exact .inr ⟨q', f', x, f'', .head hp hs, hx⟩

theorem pass_started (k : κ) (s : Session σ) (e : Env ω) :
    pass b host port c config fuel 1 (.started k s) e =
      (shakeHands b k config fuel s e).map fun
        | (.ok tls, e) => (.ok ⟨k, tls⟩, e)
        | (.error x, e) => (.error x, e.close b.sockets k) := by
  simp only [pass, advance]
  rcases shakeHands b k config fuel s e with _ | ⟨x | tls, e₁⟩ <;> rfl

theorem pass_connected (k : κ) (e : Env ω) :
    pass b host port c config fuel 4 (.connected k) e =
      match startSession b host c config e with
      | (.error x, e) => some (.error x, e.close b.sockets k)
      | (.ok s, e) => pass b host port c config fuel 1 (.started k s) e := by
  cases hp : e.runtime.provider? with
  | none =>
    simp only [pass, advance, startSession, hp]
    rfl
  | some p =>
    cases hs : (SessionSetup.configure p host c config).result with
    | error x =>
      simp only [pass, advance, startSession, hp, hs]
      rfl
    | ok setup =>
      rcases hr : b.protocol.start setup p.entropy with ⟨x | ⟨core, records⟩, source⟩
      · simp only [pass, advance, startSession, hp, hs, hr]
        rfl
      · simp only [pass, advance, startSession, hp, hs, hr]

/-- **A session is opened by all stages in a row.** -/
theorem openSession_eq_pass (e : Env ω) :
    openSession b host port c config fuel e = pass b host port c config fuel 8 .vacant e := by
  rw [openSession, pass, advance]
  rcases e.socket b.sockets config.family with ⟨x | k, e₁⟩
  · rfl
  dsimp only
  rw [pass, advance, establish, setTimeouts]
  rcases e₁.setOption b.sockets k (.recvTimeout config.recvTimeout.nonzero?) with ⟨x | _, e₂⟩
  · rfl
  dsimp only
  rw [pass, advance]
  rcases e₂.setOption b.sockets k (.sendTimeout config.sendTimeout.nonzero?) with ⟨x | _, e₃⟩
  · rfl
  dsimp only
  rw [pass, advance]
  rcases e₃.connect b.sockets k host port with ⟨x | _, e₄⟩
  · rfl
  dsimp only
  rw [pass_connected]
  rcases startSession b host c config e₄ with ⟨x | s, e₅⟩
  · rfl
  · exact (pass_started k s e₅).symm

theorem openSession_eq_ok_iff {e e' : Env ω} {k : κ} {s : Session σ} :
    openSession b host port c config fuel e = some (.ok ⟨k, s⟩, e') ↔
      Passed b host port c config fuel e (.ready k s) e' := by
  rw [openSession_eq_pass]
  constructor
  · intro h
    rcases end_of_pass h with ⟨k', s', hs, hr⟩ | ⟨_, _, _, _, _, _, hr, _⟩
    · cases hr
      exact hs
    · cases hr
  · exact fun h => pass_of_passed h

/-- **An error is exactly that of the first stage that fails.** -/
theorem openSession_eq_error_iff {e e' : Env ω} {x : TransportError} :
    openSession b host port c config fuel e = some (.error x, e') ↔
      ∃ p f f', Passed b host port c config fuel e p f ∧ Fails b host port c config fuel p f x f' ∧
        e' = p.release b f' := by
  rw [openSession_eq_pass]
  constructor
  · intro h
    rcases end_of_pass h with ⟨_, _, _, hr⟩ | ⟨p, f, y, f', hp, hf, hr, he⟩
    · cases hr
    · cases hr
      exact ⟨p, f, f', hp, hf, he⟩
  · rintro ⟨p, f, f', hp, hf, rfl⟩
    exact (pass_of_passed hp).trans (pass_of_fails hf)

/-! ### The socket of a connect -/

/-- A request on a socket that is there and stays. -/
def Stays : SocketRequest → Prop
  | .socket .. | .close => False
  | .setOption _ | .connect .. | .send | .recv => True

theorem shakeHands_adds {k : κ} {s : Session σ} {e e' : Env ω}
    {r : Except TransportError (Session σ)}
    (h : shakeHands b k config fuel s e = some (r, e')) : Env.Adds Env.Exchanges e e' := by
  refine shakeHands_keeps (Env.adds_keeps b.sockets k (.inl rfl) (.inr rfl)) ?_ h
  exact ⟨fun _ => .of_calls_eq rfl, fun _ _ => .of_calls_eq rfl⟩

/-- **A stage on a socket** keeps the socket. -/
theorem advance_adds {p : Connecting σ κ} {k : κ} {e e' : Env ω}
    {r : Except TransportError (Connecting σ κ)} (hp : p.socket? = some k)
    (h : advance b host port c config fuel p e = some (r, e')) :
    Env.Adds Stays e e' ∧ ∀ q, r = .ok q → q.socket? = some k := by
  cases p with
  | vacant => cases hp
  | opened k' | receiveLimited k' | limited k' =>
    cases hp
    simp only [advance] at h
    split at h
    all_goals
      next he =>
        cases h
        obtain ⟨-, rfl⟩ := Prod.mk.inj he
        refine ⟨.entered _ _ e trivial, fun q hq => ?_⟩
        cases hq <;> rfl
  | connected k' | provided k' p' | configured k' p' setup =>
    cases hp
    simp only [advance] at h
    split at h
    all_goals
      cases h
      refine ⟨.of_calls_eq rfl, fun q hq => ?_⟩
      cases hq <;> rfl
  | started k' s =>
    cases hp
    obtain ⟨⟨r', e₁⟩, hs, ho⟩ := Option.map_eq_some_iff.mp h
    obtain ⟨rfl, rfl⟩ := Prod.mk.inj ho
    refine ⟨(shakeHands_adds hs).mono ?_, fun q hq => ?_⟩
    · rintro _ (rfl | rfl) <;> trivial
    · cases r' with
      | error x => cases hq
      | ok s' =>
        cases hq
        rfl
  | ready k' s => cases h

/-- **Behind the first stage there is one socket**, the one that was asked for. -/
theorem passed_socket {e₀ e : Env ω} {p : Connecting σ κ}
    (h : Passed b host port c config fuel e₀ p e) :
    p = .vacant ∧ e = e₀ ∨ ∃ k e₁, p.socket? = some k ∧
      e₀.socket b.sockets config.family = (.ok k, e₁) ∧ Env.Adds Stays e₁ e := by
  unfold Passed at h
  generalize hx : (p, e) = x at h
  induction h generalizing p e with
  | refl =>
    cases hx
    exact .inl ⟨rfl, rfl⟩
  | @tail y z _ hs ih =>
    obtain ⟨q, f⟩ := y
    subst hx
    rcases ih rfl with ⟨rfl, rfl⟩ | ⟨k, e₁, hk, he, ha⟩
    · simp only [Passes, advance] at hs
      split at hs
      · next k e₁ he =>
        cases hs
        exact .inr ⟨k, e, rfl, he, .of_calls_eq rfl⟩
      · cases hs
    · obtain ⟨ha', hq⟩ := advance_adds hk hs
      exact .inr ⟨k, e₁, hq p rfl, he, ha.trans ha'⟩

/-! ### What fails, and as what it shows -/

section
variable (b : Backing ω σ κ) (host : String) (port : ℕ) (c : Credentials) (config : TransportConfig)
  (fuel : ℕ)

/-- **The stage after `p`, tried in `e`, fails and shows as this error.** -/
inductive Shows : Connecting σ κ → Env ω → TransportError → Prop
  | socket {e x} (h : (e.socket b.sockets config.family).1 = .error x) :
    Shows .vacant e (.internal ("failed to create socket: " ++ x.message))
  | recvTimeout {k e x}
      (h : (e.setOption b.sockets k (.recvTimeout config.recvTimeout.nonzero?)).1 = .error x) :
    Shows (.opened k) e (.invalidParameter ("failed to set socket timeouts: " ++ x.message))
  | sendTimeout {k e x}
      (h : (e.setOption b.sockets k (.sendTimeout config.sendTimeout.nonzero?)).1 = .error x) :
    Shows (.receiveLimited k) e (.invalidParameter ("failed to set socket timeouts: " ++ x.message))
  | connect {k e x} (h : (e.connect b.sockets k host port).1 = .error x) :
    Shows (.limited k) e (.connectFailure host port x)
  | provider {k e} (h : e.runtime.provider? = none) :
    Shows (.connected k) e
      (.internal "TLS runtime is not initialised; call TlsRuntime::init first")
  | setup {k p e x} (h : (SessionSetup.configure p host c config).result = .error x) :
    Shows (.provided k p) e x
  | session {k p setup e x} (h : (b.protocol.start setup p.entropy).1 = .error x) :
    Shows (.configured k p setup) e (.internal ("failed to create TLS session: " ++ x.message))
  | handshake {k s e f s' e'}
      (h : Handshake.drive b.protocol (Env.stream b.sockets k) b.clock.inEnv
        (handshakeBudget config.handshakeTimeout config.recvTimeout config.sendTimeout) fuel s e =
          some (.error f, s', e')) :
    Shows (.started k s) e (.handshakeFailed f)

end

theorem shows_of_fails {p : Connecting σ κ} {e e' : Env ω} {x : TransportError}
    (h : Fails b host port c config fuel p e x e') : Shows b host port c config fuel p e x := by
  unfold Fails at h
  cases p with
  | vacant =>
    simp only [advance] at h
    split at h
    · cases h
    · next he => cases h; exact .socket (congrArg Prod.fst he)
  | opened k =>
    simp only [advance] at h
    split at h
    · cases h
    · next he => cases h; exact .recvTimeout (congrArg Prod.fst he)
  | receiveLimited k =>
    simp only [advance] at h
    split at h
    · cases h
    · next he => cases h; exact .sendTimeout (congrArg Prod.fst he)
  | limited k =>
    simp only [advance] at h
    split at h
    · cases h
    · next he => cases h; exact .connect (congrArg Prod.fst he)
  | connected k =>
    simp only [advance] at h
    split at h
    · cases h
    · next he => cases h; exact .provider he
  | provided k p =>
    simp only [advance] at h
    split at h
    · cases h
    · next he => cases h; exact .setup he
  | configured k p setup =>
    simp only [advance] at h
    split at h
    · cases h
    · next he => cases h; exact .session he
  | started k s =>
    obtain ⟨⟨r, e₁⟩, hs, ho⟩ := Option.map_eq_some_iff.mp h
    obtain ⟨⟨f | stats, s₁, e₂⟩, hd, hr⟩ := Option.map_eq_some_iff.mp hs
    · cases hr
      cases ho
      exact .handshake hd
    · cases hr
      cases ho
  | ready k s => cases h

theorem exists_fails_iff {p : Connecting σ κ} {e : Env ω} {x : TransportError} :
    (∃ e', Fails b host port c config fuel p e x e') ↔ Shows b host port c config fuel p e x := by
  refine ⟨fun ⟨e', h⟩ => shows_of_fails h, fun h => ?_⟩
  unfold Fails
  cases h with
  | @socket e x h =>
    rcases he : e.socket b.sockets config.family with ⟨r, e₁⟩
    obtain rfl : r = .error x := by rwa [he] at h
    exact ⟨e₁, by rw [advance, he]⟩
  | @recvTimeout k e x h =>
    rcases he : e.setOption b.sockets k (.recvTimeout config.recvTimeout.nonzero?) with ⟨r, e₁⟩
    obtain rfl : r = .error x := by rwa [he] at h
    exact ⟨e₁, by rw [advance, he]⟩
  | @sendTimeout k e x h =>
    rcases he : e.setOption b.sockets k (.sendTimeout config.sendTimeout.nonzero?) with ⟨r, e₁⟩
    obtain rfl : r = .error x := by rwa [he] at h
    exact ⟨e₁, by rw [advance, he]⟩
  | @connect k e x h =>
    rcases he : e.connect b.sockets k host port with ⟨r, e₁⟩
    obtain rfl : r = .error x := by rwa [he] at h
    exact ⟨e₁, by rw [advance, he]⟩
  | provider h => exact ⟨_, by rw [advance, h]⟩
  | setup h => exact ⟨_, by simp only [advance, h]; rfl⟩
  | session h => exact ⟨_, by simp only [advance, h]; rfl⟩
  | handshake h => exact ⟨_, by simp only [advance, shakeHands, h]; rfl⟩

end SecureStream.Transport
