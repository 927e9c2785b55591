import SecureStream.Credentials.Loader
import SecureStream.Proofs.Except

/-! # How a load fails

Certificates are looked at one after the other, and refused for the first among them that is
(`FirstRefused`). So a root or a client's chain fails for its document or for one certificate, whose
number the error has (`roots_eq_error_iff`, `clientChain_eq_error_iff`).

A load that succeeds has a root, and an identity exactly if both halves of it were supplied
(`load_ok`). -/

namespace SecureStream.Credentials

open Tls (CertificateError)
open X509 (TrustAnchor Certificate)

variable {α : Type}

/-! ### Certificates, one after the other -/

/-- **The first certificate that is refused** has the number `n`; the error is `x`. -/
def FirstRefused (read : Bytes → Except CertificateError α) (bs : List Bytes) (n : ℕ)
    (x : CertificateError) : Prop :=
  ∃ before b rest, bs = before ++ b :: rest ∧ before.length = n ∧
    (∀ a ∈ before, (read a).isOk = true) ∧ read b = .error x

variable {read : Bytes → Except CertificateError α} {b : Bytes} {bs : List Bytes} {n : ℕ}
  {x y : CertificateError}

theorem not_firstRefused_nil : ¬FirstRefused read [] n x := by
  rintro ⟨before, b, rest, h, -⟩
  cases before <;> cases h

theorem firstRefused_cons_of_error (hb : read b = .error y) :
    FirstRefused read (b :: bs) n x ↔ n = 0 ∧ x = y := by
  constructor
  · rintro ⟨_ | ⟨a, before⟩, c, rest, h, rfl, hok, hc⟩
    · obtain ⟨rfl, -⟩ := List.cons.inj h
      exact ⟨rfl, Except.error.inj (hc.symm.trans hb)⟩
    · obtain ⟨rfl, -⟩ := List.cons.inj h
      have := hok b List.mem_cons_self
      rw [hb] at this
      cases this
  · rintro ⟨rfl, rfl⟩
    exact ⟨[], b, bs, rfl, rfl, by simp, hb⟩

theorem firstRefused_cons_of_ok {a : α} (hb : read b = .ok a) :
    FirstRefused read (b :: bs) n x ↔ ∃ m, n = m + 1 ∧ FirstRefused read bs m x := by
  constructor
  · rintro ⟨_ | ⟨c, before⟩, d, rest, h, rfl, hok, hd⟩
    · obtain ⟨rfl, -⟩ := List.cons.inj h
      rw [hb] at hd
      cases hd
    · obtain ⟨rfl, rfl⟩ := List.cons.inj h
      exact ⟨before.length, rfl, before, d, rest, rfl, rfl,
        fun a ha => hok a (List.mem_cons_of_mem _ ha), hd⟩
  · rintro ⟨m, rfl, before, d, rest, rfl, rfl, hok, hd⟩
    exact ⟨b :: before, d, rest, rfl, rfl, List.forall_mem_cons.mpr ⟨by rw [hb]; rfl, hok⟩, hd⟩

theorem exists_firstRefused_of_error (hb : read b = .error y)
    (text : ℕ → CertificateError → String) (i : ℕ) (m : String) :
    (∃ n x, FirstRefused read (b :: bs) n x ∧ m = text (i + n) x) ↔ m = text i y := by
  simp only [firstRefused_cons_of_error hb]
  constructor
  · rintro ⟨_, _, ⟨rfl, rfl⟩, rfl⟩
    rfl
  · rintro rfl
    exact ⟨0, y, ⟨rfl, rfl⟩, rfl⟩

theorem exists_firstRefused_cons {a : α} (hb : read b = .ok a)
    (text : ℕ → CertificateError → String) (i : ℕ) (m : String) :
    (∃ n x, FirstRefused read (b :: bs) n x ∧ m = text (i + n) x) ↔
      ∃ n x, FirstRefused read bs n x ∧ m = text (i + 1 + n) x := by
  simp only [firstRefused_cons_of_ok hb]
  constructor
  · rintro ⟨_, x, ⟨n, rfl, h⟩, rfl⟩
    exact ⟨n, x, h, by rw [Nat.add_right_comm, Nat.add_assoc]⟩
  · rintro ⟨n, x, h, rfl⟩
    exact ⟨n + 1, x, ⟨n, rfl, h⟩, by rw [Nat.add_right_comm, Nat.add_assoc]⟩

/-- What is said of a root that is refused. -/
def rootText (n : ℕ) (x : CertificateError) : String :=
  "certificate #" ++ toString n ++ " rejected: " ++ (TlsError.invalidCertificate x).message

/-- What is said of an element of a client's chain that is refused. -/
def elementText (n : ℕ) (x : CertificateError) : String :=
  "certificate #" ++ toString n ++ ": " ++ (TlsError.invalidCertificate x).message

/-- **Roots are refused for the first that is no trust anchor.** -/
theorem anchors_eq_error_iff {i : ℕ} {m : String} :
    anchors i bs = .error m ↔
      ∃ n x, FirstRefused TrustAnchor.ofBytes bs n x ∧ m = rootText (i + n) x := by
  induction bs generalizing i with
  | nil => simp [anchors, not_firstRefused_nil]
  | cons b bs ih =>
    rw [anchors]
    cases hb : TrustAnchor.ofBytes b with
    | error y =>
      rw [exists_firstRefused_of_error hb]
      exact ⟨fun h => (Except.error.inj h).symm, fun h => congrArg Except.error h.symm⟩
    | ok a =>
      have hmap (r : Except String (List TrustAnchor)) :
          r.map (a :: ·) = .error m ↔ r = .error m := by cases r <;> simp [Except.map]
      rw [exists_firstRefused_cons hb, ← ih]
      exact hmap _

/-- **A client's chain is refused for the first element that is no certificate.** -/
theorem checkChain_eq_error_iff {i : ℕ} {m : String} :
    checkChain i bs = .error m ↔
      ∃ n x, FirstRefused (Certificate.read .refuse) bs n x ∧ m = elementText (i + n) x := by
  induction bs generalizing i with
  | nil => simp [checkChain, not_firstRefused_nil]
  | cons b bs ih =>
    rw [checkChain]
    cases hb : Certificate.read .refuse b with
    | error y =>
      rw [exists_firstRefused_of_error hb]
      exact ⟨fun h => (Except.error.inj h).symm, fun h => congrArg Except.error h.symm⟩
    | ok a => rw [exists_firstRefused_cons hb, ← ih]

theorem ne_nil_of_certificates (h : certificates b = .ok bs) : bs ≠ [] := by
  unfold certificates at h
  split at h
  · obtain ⟨found, -, h⟩ := Except.bind_eq_ok_iff.mp h
    split at h
    · cases h
    · split at h
      · cases h
      · next hne =>
        cases h
        simpa using hne
  · split at h <;> cases h
    simp

theorem length_of_anchors {i : ℕ} {as : List TrustAnchor} (h : anchors i bs = .ok as) :
    as.length = bs.length := by
  induction bs generalizing i as with
  | nil =>
    cases h
    rfl
  | cons b bs ih =>
    rw [anchors] at h
    split at h
    · obtain ⟨rest, hr, rfl⟩ := Except.map_eq_ok_iff.mp h
      rw [List.length_cons, List.length_cons, ih hr]
    · cases h

/-- **Roots that are read are not none.** -/
theorem ne_nil_of_roots {as : List TrustAnchor} (h : roots b = .ok as) : as ≠ [] := by
  obtain ⟨bs, hc, ha⟩ := Except.bind_eq_ok_iff.mp (Except.mapError_eq_ok_iff.mp h)
  rw [← List.length_pos_iff, length_of_anchors ha]
  exact List.length_pos_iff.mpr (ne_nil_of_certificates hc)

/-- **What is wrong with a root**: the document, or one of the certificates. -/
theorem roots_eq_error_iff {x : CredentialError} :
    roots b = .error x ↔
      (∃ m, certificates b = .error m ∧ x = .rootCa m) ∨
        ∃ bs n y, certificates b = .ok bs ∧ FirstRefused TrustAnchor.ofBytes bs n y ∧
          x = .rootCa (rootText n y) := by
  simp only [roots, Except.mapError_eq_error_iff, Except.bind_eq_error_iff, anchors_eq_error_iff,
    Nat.zero_add]
  constructor
  · rintro ⟨m, hm | ⟨bs, hbs, n, y, hy, rfl⟩, rfl⟩
    · exact .inl ⟨m, hm, rfl⟩
    · exact .inr ⟨bs, n, y, hbs, hy, rfl⟩
  · rintro (⟨m, hm, rfl⟩ | ⟨bs, n, y, hbs, hy, rfl⟩)
    · exact ⟨m, .inl hm, rfl⟩
    · exact ⟨_, .inr ⟨bs, hbs, n, y, hy, rfl⟩, rfl⟩

/-- **What is wrong with a client's chain**: the document, or one of the elements. -/
theorem clientChain_eq_error_iff {x : CredentialError} :
    clientChain b = .error x ↔
      (∃ m, certificates b = .error m ∧ x = .clientCertificate m) ∨
        ∃ bs n y, certificates b = .ok bs ∧ FirstRefused (Certificate.read .refuse) bs n y ∧
          x = .clientCertificate (elementText n y) := by
  simp only [clientChain, Except.mapError_eq_error_iff, Except.bind_eq_error_iff,
    Except.map_eq_error_iff, checkChain_eq_error_iff, Nat.zero_add]
  constructor
  · rintro ⟨m, hm | ⟨bs, hbs, n, y, hy, rfl⟩, rfl⟩
    · exact .inl ⟨m, hm, rfl⟩
    · exact .inr ⟨bs, n, y, hbs, hy, rfl⟩
  · rintro (⟨m, hm, rfl⟩ | ⟨bs, n, y, hbs, hy, rfl⟩)
    · exact ⟨m, .inl hm, rfl⟩
    · exact ⟨_, .inr ⟨bs, hbs, n, y, hy, rfl⟩, rfl⟩

theorem privateKeyOf_eq_error {password : Bool} {x : CredentialError}
    (h : privateKeyOf b password = .error x) : ∃ m, x = .privateKey m := by
  obtain ⟨m, -, rfl⟩ := Except.mapError_eq_error_iff.mp h
  exact ⟨m, rfl⟩

/-! ### Loading -/

/-- **A load, stage by stage**, with its log left aside. -/
theorem load_fst (c : Credentials) :
    c.load.1 = c.rootBytes.bind fun b =>
      ((roots b).mapError .invalidCredentials).bind fun anchors =>
        c.loadIdentity.1.map fun i => ⟨anchors, i⟩ := by
  unfold load
  cases c.rootBytes with
  | error e => rfl
  | ok b =>
    dsimp only [Except.bind]
    cases roots b <;> rfl

theorem rootCa_of_rootBytes {c : Credentials} (h : c.rootBytes = .ok b) : c.rootCa = some b := by
  unfold rootBytes at h
  split at h
  · next hr =>
    cases h
    exact hr
  · cases h

theorem loadIdentity_fst {c : Credentials} {cert key : Bytes} (hc : c.clientCert = some cert)
    (hk : c.privateKey = some key) :
    c.loadIdentity.1 = ((clientChain cert).mapError .invalidCredentials).bind fun chain =>
      ((privateKeyOf key c.privateKeyPassword.isSome).mapError .invalidCredentials).map fun key =>
        some ⟨chain, key⟩ := by
  rw [loadIdentity, hc, hk]
  dsimp only
  cases clientChain cert with
  | error e => rfl
  | ok chain => cases privateKeyOf key c.privateKeyPassword.isSome <;> rfl

theorem loadIdentity_of_half {c : Credentials} (h : c.hasClientIdentity = false) :
    c.loadIdentity.1 = .ok none := by
  unfold hasClientIdentity at h
  unfold loadIdentity
  split
  · next hc hk =>
    rw [hc, hk] at h
    cases h
  · rfl
  · rfl
  · rfl

/-- **A load that succeeds**, stage by stage. -/
theorem stages_of_load {c : Credentials} {loaded : Loaded} (h : c.load.1 = .ok loaded) :
    ∃ b, c.rootCa = some b ∧ roots b = .ok loaded.roots ∧
      c.loadIdentity.1 = .ok loaded.identity := by
  rw [load_fst] at h
  obtain ⟨b, hb, h⟩ := Except.bind_eq_ok_iff.mp h
  obtain ⟨as, has, h⟩ := Except.bind_eq_ok_iff.mp h
  obtain ⟨i, hi, rfl⟩ := Except.map_eq_ok_iff.mp h
  exact ⟨b, rootCa_of_rootBytes hb, Except.mapError_eq_ok_iff.mp has, hi⟩

/-- **A load that succeeds has a root, and an identity exactly for both halves.** -/
theorem load_ok {c : Credentials} {loaded : Loaded} (h : c.load.1 = .ok loaded) :
    loaded.roots ≠ [] ∧ loaded.identity.isSome = c.hasClientIdentity := by
  obtain ⟨b, -, hroots, hi⟩ := stages_of_load h
  refine ⟨ne_nil_of_roots hroots, ?_⟩
  cases hhalf : c.hasClientIdentity with
  | false =>
    rw [loadIdentity_of_half hhalf] at hi
    rw [← Except.ok.inj hi]
    rfl
  | true =>
    obtain ⟨hc, hk⟩ := Bool.and_eq_true_iff.mp hhalf
    obtain ⟨cert, hc⟩ := Option.isSome_iff_exists.mp hc
    obtain ⟨key, hk⟩ := Option.isSome_iff_exists.mp hk
    rw [loadIdentity_fst hc hk] at hi
    obtain ⟨chain, -, hi⟩ := Except.bind_eq_ok_iff.mp hi
    obtain ⟨k, -, hk⟩ := Except.map_eq_ok_iff.mp hi
    rw [← hk]
    rfl

end SecureStream.Credentials
