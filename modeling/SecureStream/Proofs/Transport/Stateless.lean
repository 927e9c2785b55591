import SecureStream.Transport.Transport
import Mathlib.Tactic.Common

/-! # Errors of a connect do not speak of the state

The stages of a connect between the two changes of state can fail in many ways, but none of them
says that the transport is in the wrong state (`Stateless`): not the setup of a session
(`configure_stateless`), and not what is done on the socket (`openSession_stateless`). -/

namespace SecureStream

variable {α β : Type}

/-- **The result is not that the state is wrong.** -/
def Stateless (r : Except TransportError α) : Prop := ∀ x y, r ≠ .error (.invalidState x y)

theorem stateless_ok (a : α) : Stateless (.ok a) := by
  intro x y h
  cases h

theorem stateless_error {x : TransportError} (h : ∀ a b, x ≠ .invalidState a b) :
    Stateless (.error x : Except TransportError α) := fun a b he => h a b (Except.error.inj he)

theorem Stateless.error {x : TransportError} (h : Stateless (.error x : Except TransportError α)) :
    Stateless (.error x : Except TransportError β) :=
  stateless_error fun a b he => h a b (congrArg _ he)

theorem Stateless.map {r : Except TransportError α} (h : Stateless r) (f : α → β) :
    Stateless (r.map f) := by
  cases r with
  | error x => exact h.error
  | ok a => exact stateless_ok (f a)

theorem Stateless.andThen {x : Logged α} {f : α → Logged β} (hx : Stateless x.result)
    (hf : ∀ a, Stateless (f a).result) : Stateless (x >>= f).result := by
  show Stateless (x.andThen f).result
  unfold Logged.andThen
  split
  · next e he => rw [he] at hx; exact hx.error
  · next a he => exact hf a

/-! ### Setting up a session -/

namespace Credentials

theorem logged_stateless (message : String) (r : Except CredentialError α) :
    Stateless (logged message r).1 := by
  cases r with
  | error x => exact stateless_error (by simp)
  | ok a => exact stateless_ok a

theorem loadIdentity_stateless (c : Credentials) : Stateless c.loadIdentity.1 := by
  unfold loadIdentity
  split
  · next cert key _ _ =>
    have hc := logged_stateless "failed to parse the client certificate" (clientChain cert)
    split
    · next he => rw [he] at hc; exact hc.error
    · exact (logged_stateless _ _).map _
  · exact stateless_ok _
  · exact stateless_ok _
  · exact stateless_ok _

theorem load_stateless (c : Credentials) : Stateless c.load.1 := by
  unfold load
  split
  · next x hx =>
    unfold rootBytes at hx
    split at hx
    · simp at hx
    · obtain rfl := Except.error.inj hx
      exact stateless_error (by simp)
  · next b _ =>
    have hr := logged_stateless "failed to parse server root CA certificate" (Credentials.roots b)
    split
    · next he => rw [he] at hr; exact hr.error
    · exact (loadIdentity_stateless c).map _

end Credentials

namespace SessionSetup

theorem checkProvider_stateless (p : Provider) : Stateless (checkProvider p).result := by
  unfold checkProvider
  split
  · exact stateless_ok ()
  · exact stateless_error (by simp)

theorem clientOf_stateless (i : Option Credentials.ClientIdentity) :
    Stateless (clientOf i).result := by
  unfold clientOf
  split
  · exact stateless_ok none
  · split
    · exact stateless_ok _
    · exact stateless_error (by simp)

theorem ofHost_stateless (host : String) : Stateless (ServerName.ofHost host) := by
  unfold ServerName.ofHost
  split
  · exact stateless_ok _
  · exact stateless_error (by simp)

/-- **A setup is never refused for the state of a transport.** -/
theorem configure_stateless (p : Provider) (host : String) (c : Credentials)
    (config : TransportConfig) : Stateless (configure p host c config).result := by
  unfold configure
  refine .andThen (checkProvider_stateless p) fun _ => ?_
  refine .andThen (Credentials.load_stateless c) fun loaded => ?_
  refine .andThen (stateless_ok ()) fun _ => ?_
  refine .andThen (clientOf_stateless loaded.identity) fun client => ?_
  refine .andThen (stateless_ok ()) fun _ => ?_
  refine .andThen (stateless_ok ()) fun _ => ?_
  exact .andThen (ofHost_stateless host) fun server => stateless_ok _

end SessionSetup

/-! ### Stages on a socket -/

namespace Transport

variable {ω σ κ : Type} {b : Backing ω σ κ} {host : String} {port : ℕ} {c : Credentials}
  {config : TransportConfig} {fuel : ℕ}

theorem checkArguments_stateless (host : String) (c : Credentials) :
    Stateless (checkArguments host c) := by
  unfold checkArguments
  split
  · exact stateless_error (by simp)
  · refine Stateless.map ?_ _
    unfold Credentials.rootBytes
    split
    · exact stateless_ok _
    · exact stateless_error (by simp)

theorem setTimeouts_stateless (b : Backing ω σ κ) (socket : κ) (config : TransportConfig)
    (e : Env ω) : Stateless (setTimeouts b socket config e).1 := by
  unfold setTimeouts
  dsimp only
  split
  · exact stateless_error (by simp)
  · split
    · exact stateless_error (by simp)
    · exact stateless_ok ()

theorem startSession_stateless (b : Backing ω σ κ) (host : String) (c : Credentials)
    (config : TransportConfig) (e : Env ω) : Stateless (startSession b host c config e).1 := by
  unfold startSession
  split
  · exact stateless_error (by simp)
  · next p _ =>
    have hs := SessionSetup.configure_stateless p host c config
    dsimp only
    split
    · next he => rw [he] at hs; exact hs.error
    · split
      · exact stateless_error (by simp)
      · exact stateless_ok _

theorem shakeHands_stateless {socket : κ} {s : Session σ} {e e' : Env ω}
    {r : Except TransportError (Session σ)}
    (h : shakeHands b socket config fuel s e = some (r, e')) : Stateless r := by
  unfold shakeHands at h
  obtain ⟨⟨_ | _, _, _⟩, -, ho⟩ := Option.map_eq_some_iff.mp h
  · obtain ⟨rfl, -⟩ := Prod.mk.inj ho
    exact stateless_error (by simp)
  · obtain ⟨rfl, -⟩ := Prod.mk.inj ho
    exact stateless_ok _

theorem establish_stateless {socket : κ} {e e' : Env ω} {r : Except TransportError (Session σ)}
    (h : establish b socket host port c config fuel e = some (r, e')) : Stateless r := by
  unfold establish at h
  have ht := setTimeouts_stateless b socket config e
  split at h
  · next he =>
    rw [he] at ht
    obtain ⟨rfl, -⟩ := Prod.mk.inj (Option.some.inj h)
    exact ht.error
  · next e₁ _ =>
    split at h
    · obtain ⟨rfl, -⟩ := Prod.mk.inj (Option.some.inj h)
      exact stateless_error (by simp)
    · next e₂ _ =>
      have hs := startSession_stateless b host c config e₂
      split at h
      · next he =>
        rw [he] at hs
        obtain ⟨rfl, -⟩ := Prod.mk.inj (Option.some.inj h)
        exact hs.error
      · exact shakeHands_stateless h

/-- **No stage on a socket fails for the state of the transport.** -/
theorem openSession_stateless {e e' : Env ω} {r : Except TransportError (Live σ κ)}
    (h : openSession b host port c config fuel e = some (r, e')) : Stateless r := by
  unfold openSession at h
  split at h
  · obtain ⟨rfl, -⟩ := Prod.mk.inj (Option.some.inj h)
    exact stateless_error (by simp)
  · obtain ⟨⟨x | _, _⟩, he, ho⟩ := Option.map_eq_some_iff.mp h
    · obtain ⟨rfl, -⟩ := Prod.mk.inj ho
      exact (establish_stateless he).error
    · obtain ⟨rfl, -⟩ := Prod.mk.inj ho
      exact stateless_ok _

end Transport

end SecureStream
