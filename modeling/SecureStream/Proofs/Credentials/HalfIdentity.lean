import SecureStream.Proofs.Credentials.Failures
import SecureStream.Proofs.Scripted

/-! # Half an identity

A load is that of the roots, and then that of the identity (`load_eq`). So the roots depend on
nothing but the root that was supplied, and a half of an identity is not even looked at: the load is
the one without it, with a warning if the roots are there.

* `half_identity_ignored`: both, over all bundles. -/

namespace SecureStream.Credentials

variable {c : Credentials}

/-- A bundle without the halves of a client identity. -/
def anonymous (c : Credentials) : Credentials := { c with clientCert := none, privateKey := none }

/-- What is logged about half an identity: which half is missing. -/
def halfWarning (certSupplied : Bool) : LogEvent :=
  .warning (if certSupplied then
      "client certificate supplied without a private key; mutual authentication not configured"
    else "private key supplied without a client certificate; mutual authentication not configured")
    []

/-! ### The roots come first -/

theorem load_anonymous (c : Credentials) :
    c.anonymous.load = { empty with rootCa := c.rootCa }.load := rfl

theorem identity_of_anonymous {loaded : Loaded} (h : c.anonymous.load.1 = .ok loaded) :
    loaded.identity = none := by
  have hnone := (load_ok h).2
  rwa [show c.anonymous.hasClientIdentity = false from rfl, Option.isSome_eq_false_iff,
    Option.isNone_iff_eq_none] at hnone

/-- **A load in two steps**: first the roots, then the identity. -/
theorem load_eq (c : Credentials) :
    c.load = match c.anonymous.load with
      | (.error e, logs) => (.error e, logs)
      | (.ok loaded, logs) =>
        (c.loadIdentity.1.map fun i => { loaded with identity := i },
          logs ++ c.loadIdentity.2) := by
  have hroot : c.anonymous.rootBytes = c.rootBytes := rfl
  have hidentity : c.anonymous.loadIdentity = (.ok none, []) := rfl
  rw [load, load, hroot, hidentity]
  cases c.rootBytes with
  | error e => rfl
  | ok b =>
    dsimp only
    cases roots b <;> rfl

theorem load_of_anonymous_error {e : TransportError} (h : c.anonymous.load.1 = .error e) :
    c.load = c.anonymous.load := by
  rw [load_eq]
  generalize c.anonymous.load = r at h ⊢
  obtain ⟨r, logs⟩ := r
  cases h
  rfl

theorem anonymous_of_load {loaded : Loaded} (h : c.load.1 = .ok loaded) :
    c.anonymous.load.1 = .ok ⟨loaded.roots, none⟩ := by
  cases ha : c.anonymous.load.1 with
  | error e =>
    -- the roots fail, and with them the whole load
    rw [load_of_anonymous_error ha, ha] at h
    cases h
  | ok first =>
    have hnone := identity_of_anonymous ha
    rw [load_eq] at h
    generalize c.anonymous.load = r at h ha
    obtain ⟨r, logs⟩ := r
    cases ha
    obtain ⟨i, -, rfl⟩ := Except.map_eq_ok_iff.mp h
    obtain ⟨roots, identity⟩ := first
    cases hnone
    rfl

/-! ### One half -/

theorem loadIdentity_of_ne (h : c.clientCert.isSome ≠ c.privateKey.isSome) :
    c.loadIdentity = (.ok none, [halfWarning c.clientCert.isSome]) := by
  unfold loadIdentity
  cases hc : c.clientCert <;> cases hk : c.privateKey
  · rw [hc, hk] at h
    exact absurd rfl h
  · rfl
  · rfl
  · rw [hc, hk] at h
    exact absurd rfl h

theorem load_of_ne (h : c.clientCert.isSome ≠ c.privateKey.isSome) :
    c.load = (c.anonymous.load.1, c.anonymous.load.2 ++
      if c.anonymous.load.1.isOk then [halfWarning c.clientCert.isSome] else []) := by
  cases ha : c.anonymous.load.1 with
  | error e =>
    rw [load_of_anonymous_error ha]
    exact Prod.ext ha (List.append_nil _).symm
  | ok loaded =>
    have hnone := identity_of_anonymous ha
    rw [load_eq, loadIdentity_of_ne h]
    generalize c.anonymous.load = r at ha ⊢
    obtain ⟨r, logs⟩ := r
    cases ha
    obtain ⟨roots, identity⟩ := loaded
    cases hnone
    rfl

/-- **Half an identity is ignored**, whatever its octets: the load is that of neither half, and a
warning behind the roots tells which half is missing. In every bundle the roots and their errors
depend on the root alone, and there is an identity exactly for both halves. -/
theorem half_identity_ignored (c : Credentials) :
    (c.clientCert.isSome ≠ c.privateKey.isSome →
      c.load = (c.anonymous.load.1, c.anonymous.load.2 ++
        if c.anonymous.load.1.isOk then [halfWarning c.clientCert.isSome] else []) ∧
      (∀ loaded, c.load.1 = .ok loaded → loaded.identity = none) ∧
      ∀ c' : Credentials, c'.rootCa = c.rootCa →
        c'.clientCert.isSome = c.clientCert.isSome → c'.privateKey.isSome = c.privateKey.isSome →
        c'.load = c.load) ∧
    (∀ e, { empty with rootCa := c.rootCa }.load.1 = .error e →
      c.load = { empty with rootCa := c.rootCa }.load) ∧
    ∀ loaded, c.load.1 = .ok loaded →
      { empty with rootCa := c.rootCa }.load.1 = .ok ⟨loaded.roots, none⟩ ∧
      loaded.identity.isSome = c.hasClientIdentity := by
  refine ⟨fun h => ?_, fun e he => ?_, fun loaded hl => ?_⟩
  · have hload := load_of_ne h
    refine ⟨hload, fun loaded hl => ?_, fun c' hroot hcert hkey => ?_⟩
    · rw [hload] at hl
      exact identity_of_anonymous hl
    · have h' : c'.clientCert.isSome ≠ c'.privateKey.isSome := by
        rwa [hcert, hkey]
      have hanonymous : c'.anonymous.load = c.anonymous.load := by
        rw [load_anonymous, load_anonymous, hroot]
      rw [load_of_ne h', hload, hanonymous, hcert]
  · rw [← load_anonymous] at he ⊢
    exact load_of_anonymous_error he
  · rw [← load_anonymous]
    exact ⟨anonymous_of_load hl, (load_ok hl).2⟩

/-- A key alone, which is none. -/
theorem half_identity_ignored_key :
    let c := { bareRoot with privateKey := some [1] }
    privateKeyOf [1] false = .error (.privateKey "unknown or invalid key format") ∧
      c.load = (bareRoot.load.1, [halfWarning false]) ∧
      { c with privateKey := some [] }.load = c.load := by
  intro c
  obtain ⟨hhalf, -, -⟩ := half_identity_ignored c
  obtain ⟨hload, -, hany⟩ := hhalf (by decide)
  refine ⟨by decide +kernel, ?_, hany _ rfl rfl rfl⟩
  rw [hload]
  decide +kernel

end SecureStream.Credentials
