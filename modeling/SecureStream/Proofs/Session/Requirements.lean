import SecureStream.Proofs.Credentials.Failures
import SecureStream.Proofs.Scripted
import SecureStream.Session.Setup

/-! # What a setup requires

A setup has seven requirements, which are looked at one after the other (`Requirement`). Each may be
unmet on its own account, and then has an error of its own (`Unmet`); the setup reports the error of
the first that is unmet, and succeeds if there is none (`configure_eq_error_iff`).

The library beneath accepts a client's identity or not, and makes a verifier of the roots. What it
does there is taken as it comes (`Engine`), but for one thing: the only roots that it makes no
verifier of are none at all. -/

namespace SecureStream

open X509 (TrustAnchor Certificate)

variable {α β : Type}

namespace SessionSetup

/-! ### The library beneath -/

/-- **What a setup leaves to the library beneath**: whether an identity is accepted, and making a
verifier of roots with a provider. -/
structure Engine where
  accept : Credentials.ClientIdentity → Except TlsError ClientSigner
  buildVerifier : List TrustAnchor → Provider → Except String Unit

namespace Engine

/-- The signer of an identity, where there is one. -/
def clientOf (e : Engine) : Option Credentials.ClientIdentity → Logged (Option ClientSigner)
  | none => .of none
  | some i =>
    match e.accept i with
    | .ok signer => .of (some signer)
    | .error x =>
      ⟨.error (.invalidCredentials (refusal x)),
        [.failure "client certificate and key rejected" [("error", x.message)]]⟩

/-- The verifier of the roots is made, unless every certificate is accepted anyway. -/
def checkRoots (e : Engine) (c : Credentials) (roots : List TrustAnchor) (p : Provider) :
    Logged Unit :=
  match c.verifyMode with
  | .none => .of ()
  | .required =>
    match e.buildVerifier roots p with
    | .ok () => .of ()
    | .error m => .fail (.invalidCredentials (.rootCa m))

/-- **Puts a session's setup together** with a library. -/
def configure (e : Engine) (provider : Provider) (host : String) (c : Credentials)
    (config : TransportConfig) : Logged SessionSetup := do
  checkProvider provider
  let loaded ← (⟨c.load.1, c.load.2⟩ : Logged Credentials.Loaded)
  e.checkRoots c loaded.roots (config.profile.restrict provider)
  let (strictness, warnings) := strictnessOf c host
  ⟨.ok (), warnings⟩
  let client ← e.clientOf loaded.identity
  let (protocols, alpnEvents) := offeredAlpn c.alpnProtocols
  ⟨.ok (), alpnEvents⟩
  let (size, sizeEvents) := usableFragmentSize config.maxFragmentSize
  ⟨.ok (), sizeEvents⟩
  let server ← Logged.ofExcept (ServerName.ofHost host)
  return {
    provider
    verifier := ⟨strictness, loaded.roots, (config.profile.restrict provider).signatures⟩
    client
    enableSni := !c.disableSni
    alpn := protocols
    maxFragmentSize := size
    server }

/-- **A verifier is made of any root at all.** -/
def MakesVerifiers (e : Engine) : Prop :=
  ∀ roots p m, e.buildVerifier roots p = .error m → roots = []

/-- A library that makes a verifier of any root. -/
def standard : Engine :=
  ⟨signerOf, fun roots _ => if roots = [] then .error "no root trust anchors" else .ok ()⟩

theorem makesVerifiers_standard : standard.MakesVerifiers := by
  intro roots p m hm
  unfold standard at hm
  dsimp only at hm
  split at hm
  · assumption
  · cases hm

variable {e : Engine}

theorem buildVerifier_of_ne (h : e.MakesVerifiers) {roots : List TrustAnchor} (hne : roots ≠ [])
    (p : Provider) : e.buildVerifier roots p = .ok () := by
  cases hb : e.buildVerifier roots p with
  | error m => exact absurd (h roots p m hb) hne
  | ok u => rfl

theorem checkRoots_of_ne (h : e.MakesVerifiers) {roots : List TrustAnchor} (hne : roots ≠ [])
    (c : Credentials) (p : Provider) : e.checkRoots c roots p = .of () := by
  rw [checkRoots, buildVerifier_of_ne h hne]
  cases c.verifyMode <;> rfl

end Engine

/-! ### Requirements -/

/-- **What a setup requires**, in the order in which it is looked at. -/
inductive Requirement
  /-- The provider has what a version of the protocol needs. -/
  | versions
  | rootPresence
  | rootParsing
  | clientChain
  | privateKey
  /-- The key belongs to the client's certificate. -/
  | keyPair
  | hostName
deriving DecidableEq, Repr

/-- How many requirements are looked at before. -/
def Requirement.rank : Requirement → ℕ
  | versions => 0
  | rootPresence => 1
  | rootParsing => 2
  | clientChain => 3
  | privateKey => 4
  | keyPair => 5
  | hostName => 6

theorem Requirement.rank_injective {r q : Requirement} (h : r.rank = q.rank) : r = q := by
  cases r <;> cases q <;> first | rfl | cases h

section
variable (e : Engine) (provider : Provider) (host : String) (c : Credentials)

open Credentials (certificates privateKeyOf FirstRefused rootText elementText)

/-- **A requirement that is unmet**, whatever the others are, with its error. The requirements on a
client's identity are there only if both halves are. -/
inductive Unmet : Requirement → TransportError → Prop
  | versions {x} (h : provider.checkUsable = .error x) :
    Unmet .versions (.internal ("failed to set default TLS configuration: " ++ x.message))
  | rootPresence (h : c.rootCa = none ∨ c.rootCa = some []) :
    Unmet .rootPresence (.invalidParameter "root CA cannot be empty")
  | rootDocument {b m} (hb : c.rootCa = some b) (h : certificates b = .error m) :
    Unmet .rootParsing (.invalidCredentials (.rootCa m))
  | root {b bs n x} (hb : c.rootCa = some b) (hbs : certificates b = .ok bs)
    (h : FirstRefused TrustAnchor.ofBytes bs n x) :
    Unmet .rootParsing (.invalidCredentials (.rootCa (rootText n x)))
  | chainDocument {b k m} (hb : c.clientCert = some b) (hk : c.privateKey = some k)
    (h : certificates b = .error m) :
    Unmet .clientChain (.invalidCredentials (.clientCertificate m))
  | chainElement {b k bs n x} (hb : c.clientCert = some b) (hk : c.privateKey = some k)
    (hbs : certificates b = .ok bs) (h : FirstRefused (Certificate.read .refuse) bs n x) :
    Unmet .clientChain (.invalidCredentials (.clientCertificate (elementText n x)))
  | privateKey {b k m} (hb : c.clientCert = some b) (hk : c.privateKey = some k)
    (h : privateKeyOf k c.privateKeyPassword.isSome = .error (.privateKey m)) :
    Unmet .privateKey (.invalidCredentials (.privateKey m))
  | pairCertificate {b k chain key x} (hb : c.clientCert = some b) (hk : c.privateKey = some k)
    (hchain : Credentials.clientChain b = .ok chain)
    (hkey : privateKeyOf k c.privateKeyPassword.isSome = .ok key)
    (h : e.accept ⟨chain, key⟩ = .error (.invalidCertificate x)) :
    Unmet .keyPair
      (.invalidCredentials (.clientCertificate (TlsError.invalidCertificate x).message))
  | pairKey {b k chain key x} (hb : c.clientCert = some b) (hk : c.privateKey = some k)
    (hchain : Credentials.clientChain b = .ok chain)
    (hkey : privateKeyOf k c.privateKeyPassword.isSome = .ok key)
    (h : e.accept ⟨chain, key⟩ = .error x) (hx : ∀ y, x ≠ .invalidCertificate y) :
    Unmet .keyPair (.invalidCredentials (.privateKey x.message))
  | hostName (h : ServerName.ofText? host = none) :
    Unmet .hostName
      (.invalidParameter ("invalid server name '" ++ host ++ "': invalid dns name"))

/-- **The first requirement that is unmet.** -/
def FirstUnmet (r : Requirement) (x : TransportError) : Prop :=
  Unmet e provider host c r x ∧ ∀ q y, q.rank < r.rank → ¬Unmet e provider host c q y

end

variable {e : Engine} {provider : Provider} {host : String} {c : Credentials} {b k : Bytes}
  {x : TransportError}

/-! ### The stages of a setup -/

/-- What the stages of a setup are put together to. -/
def assembled (provider : Provider) (host : String) (c : Credentials) (config : TransportConfig)
    (loaded : Credentials.Loaded) (client : Option ClientSigner) (server : ServerName) :
    SessionSetup where
  provider := provider
  verifier := ⟨(strictnessOf c host).1, loaded.roots,
    (config.profile.restrict provider).signatures⟩
  client := client
  enableSni := !c.disableSni
  alpn := (offeredAlpn c.alpnProtocols).1
  maxFragmentSize := (usableFragmentSize config.maxFragmentSize).1
  server := server

/-- **The stages of a setup**, with the log left aside. -/
theorem Engine.configure_result (h : e.MakesVerifiers) (provider : Provider) (host : String)
    (c : Credentials) (config : TransportConfig) :
    (e.configure provider host c config).result =
      (checkProvider provider).result.bind fun _ => c.load.1.bind fun loaded =>
        (e.clientOf loaded.identity).result.bind fun client =>
          (ServerName.ofHost host).map (assembled provider host c config loaded client) := by
  unfold Engine.configure
  rw [Logged.result_bind]
  congr 1
  funext _
  rw [Logged.result_bind]
  cases hl : c.load.1 with
  | error x => rfl
  | ok loaded =>
    dsimp only [Except.bind]
    rw [checkRoots_of_ne h (Credentials.load_ok hl).1]
    simp only [Logged.result_bind]
    cases (e.clientOf loaded.identity).result <;> cases ServerName.ofHost host <;> rfl

theorem clientOf_eq (h : e.accept = signerOf) (i : Option Credentials.ClientIdentity) :
    e.clientOf i = clientOf i := by
  cases i with
  | none => rfl
  | some i =>
    rw [Engine.clientOf, h]
    rfl

/-- **With the library's own judgement of identities, this is the setup** with its log. -/
theorem configure_eq (h : e.MakesVerifiers) (ha : e.accept = signerOf) (config : TransportConfig) :
    e.configure provider host c config = SessionSetup.configure provider host c config := by
  unfold Engine.configure SessionSetup.configure
  refine Logged.bind_congr fun _ _ => Logged.bind_congr fun loaded hl => ?_
  rw [Engine.checkRoots_of_ne h (Credentials.load_ok hl).1, clientOf_eq ha]
  exact Logged.of_andThen _ _

/-- **The stages of the setup itself** are those over a library that makes verifiers. -/
theorem configure_result (provider : Provider) (host : String) (c : Credentials)
    (config : TransportConfig) :
    (configure provider host c config).result =
      (checkProvider provider).result.bind fun _ => c.load.1.bind fun loaded =>
        (clientOf loaded.identity).result.bind fun client =>
          (ServerName.ofHost host).map (assembled provider host c config loaded client) := by
  rw [← configure_eq Engine.makesVerifiers_standard rfl,
    Engine.configure_result Engine.makesVerifiers_standard]
  simp only [clientOf_eq (e := Engine.standard) rfl]

/-! ### Requirements and stages -/

theorem unmet_versions_iff :
    Unmet e provider host c .versions x ↔ (checkProvider provider).result = .error x := by
  unfold checkProvider
  cases h : provider.checkUsable with
  | ok u =>
    refine ⟨fun hx => ?_, fun hx => by cases hx⟩
    obtain ⟨hy⟩ := hx
    rw [h] at hy
    cases hy
  | error y =>
    constructor
    · intro hx
      obtain ⟨hy⟩ := hx
      rw [h] at hy
      cases hy
      rfl
    · intro hx
      cases hx
      exact .versions h

theorem unmet_rootPresence_iff :
    Unmet e provider host c .rootPresence x ↔ c.rootBytes = .error x := by
  unfold Credentials.rootBytes
  constructor
  · rintro ⟨⟩
    next h => obtain h | h := h <;> rw [h]
  · intro hx
    split at hx
    · cases hx
    · next h =>
      cases hx
      refine .rootPresence ?_
      cases hr : c.rootCa with
      | none => exact .inl rfl
      | some b =>
        cases b with
        | nil => exact .inr rfl
        | cons a b => exact absurd hr (h a b)

theorem unmet_rootParsing_iff (hb : c.rootCa = some b) :
    Unmet e provider host c .rootParsing x ↔
      (Credentials.roots b).mapError .invalidCredentials = .error x := by
  simp only [Except.mapError_eq_error_iff, Credentials.roots_eq_error_iff]
  constructor
  · intro hx
    cases hx with
    | rootDocument hb' h =>
      cases hb.symm.trans hb'
      exact ⟨_, .inl ⟨_, h, rfl⟩, rfl⟩
    | root hb' hbs h =>
      cases hb.symm.trans hb'
      exact ⟨_, .inr ⟨_, _, _, hbs, h, rfl⟩, rfl⟩
  · rintro ⟨_, ⟨m, h, rfl⟩ | ⟨bs, n, y, hbs, h, rfl⟩, rfl⟩
    · exact .rootDocument hb h
    · exact .root hb hbs h

theorem unmet_clientChain_iff (hb : c.clientCert = some b) (hk : c.privateKey = some k) :
    Unmet e provider host c .clientChain x ↔
      (Credentials.clientChain b).mapError .invalidCredentials = .error x := by
  simp only [Except.mapError_eq_error_iff, Credentials.clientChain_eq_error_iff]
  constructor
  · intro hx
    cases hx with
    | chainDocument hb' _ h =>
      cases hb.symm.trans hb'
      exact ⟨_, .inl ⟨_, h, rfl⟩, rfl⟩
    | chainElement hb' _ hbs h =>
      cases hb.symm.trans hb'
      exact ⟨_, .inr ⟨_, _, _, hbs, h, rfl⟩, rfl⟩
  · rintro ⟨_, ⟨m, h, rfl⟩ | ⟨bs, n, y, hbs, h, rfl⟩, rfl⟩
    · exact .chainDocument hb hk h
    · exact .chainElement hb hk hbs h

theorem unmet_privateKey_iff (hb : c.clientCert = some b) (hk : c.privateKey = some k) :
    Unmet e provider host c .privateKey x ↔
      (Credentials.privateKeyOf k c.privateKeyPassword.isSome).mapError .invalidCredentials =
        .error x := by
  rw [Except.mapError_eq_error_iff]
  constructor
  · intro hx
    cases hx with
    | privateKey _ hk' h =>
      cases hk.symm.trans hk'
      exact ⟨_, h, rfl⟩
  · rintro ⟨y, h, rfl⟩
    obtain ⟨m, rfl⟩ := Credentials.privateKeyOf_eq_error h
    exact .privateKey hb hk h

/-- A refused pair is put down to the certificate if the library says so, else to the key. -/
theorem unmet_keyPair_iff {chain : List Bytes} {key : PrivateKey} (hb : c.clientCert = some b)
    (hk : c.privateKey = some k) (hchain : Credentials.clientChain b = .ok chain)
    (hkey : Credentials.privateKeyOf k c.privateKeyPassword.isSome = .ok key) :
    Unmet e provider host c .keyPair x ↔ (e.clientOf (some ⟨chain, key⟩)).result = .error x := by
  unfold Engine.clientOf
  constructor
  · intro hx
    cases hx with
    | pairCertificate hb' hk' hchain' hkey' h =>
      cases hb.symm.trans hb'
      cases hk.symm.trans hk'
      cases hchain.symm.trans hchain'
      cases hkey.symm.trans hkey'
      dsimp only
      rw [h]
      rfl
    | @pairKey _ _ _ _ y hb' hk' hchain' hkey' h hy =>
      cases hb.symm.trans hb'
      cases hk.symm.trans hk'
      cases hchain.symm.trans hchain'
      cases hkey.symm.trans hkey'
      dsimp only
      rw [h]
      cases y with
      | invalidCertificate z => exact absurd rfl (hy z)
      | _ => rfl
  · intro hx
    dsimp only at hx
    cases h : e.accept ⟨chain, key⟩ with
    | ok signer =>
      rw [h] at hx
      cases hx
    | error y =>
      rw [h] at hx
      cases y with
      | invalidCertificate z =>
        cases hx
        exact .pairCertificate hb hk hchain hkey h
      | _ =>
        cases hx
        exact .pairKey hb hk hchain hkey h (by simp)

theorem unmet_hostName_iff :
    Unmet e provider host c .hostName x ↔ ServerName.ofHost host = .error x := by
  unfold ServerName.ofHost
  cases h : ServerName.ofText? host with
  | none =>
    constructor
    · rintro ⟨⟩
      rfl
    · intro hx
      cases hx
      exact .hostName h
  | some name =>
    refine ⟨fun hx => ?_, fun hx => by cases hx⟩
    cases hx with
    | hostName h' => cases h.symm.trans h'

theorem hasClientIdentity_of_unmet {r : Requirement} (h : Unmet e provider host c r x)
    (hr : r = .clientChain ∨ r = .privateKey ∨ r = .keyPair) : c.hasClientIdentity = true := by
  have hboth {b k} (hb : c.clientCert = some b) (hk : c.privateKey = some k) :
      c.hasClientIdentity = true := by
    rw [Credentials.hasClientIdentity, hb, hk]
    rfl
  cases h with
  | chainDocument hb hk | chainElement hb hk | privateKey hb hk | pairCertificate hb hk
  | pairKey hb hk => exact hboth hb hk
  | _ => rcases hr with hr | hr | hr <;> cases hr

/-! ### The first that is unmet -/

variable {r : Requirement}

/-- **Every requirement with a rank below `n` is met.** -/
def MetBelow (e : Engine) (provider : Provider) (host : String) (c : Credentials) (n : ℕ) : Prop :=
  ∀ q y, q.rank < n → ¬Unmet e provider host c q y

theorem MetBelow.succ (h : MetBelow e provider host c r.rank)
    (hr : ∀ y, ¬Unmet e provider host c r y) : MetBelow e provider host c (r.rank + 1) := by
  intro q y hq
  rcases Nat.lt_or_eq_of_le (Nat.le_of_lt_succ hq) with hlt | heq
  · exact h q y hlt
  · rw [Requirement.rank_injective heq]
    exact hr y

/-- **A result that the requirements explain**: all are met, or it is the only error of the first
that is not. -/
def Explained (e : Engine) (provider : Provider) (host : String) (c : Credentials)
    (m : Except TransportError α) : Prop :=
  (∃ a, m = .ok a) ∧ MetBelow e provider host c 7 ∨
    ∃ r x, m = .error x ∧ (∀ y, Unmet e provider host c r y ↔ y = x) ∧
      MetBelow e provider host c r.rank

/-- **One stage**: it fails exactly with the error of a requirement. -/
theorem Explained.bind {m : Except TransportError α} {f : α → Except TransportError β}
    (r : Requirement) (hmet : MetBelow e provider host c r.rank)
    (hr : ∀ y, Unmet e provider host c r y ↔ m = .error y)
    (hf : ∀ a, m = .ok a → MetBelow e provider host c (r.rank + 1) →
      Explained e provider host c (f a)) : Explained e provider host c (m.bind f) := by
  cases hm : m with
  | error x => exact .inr ⟨r, x, rfl, fun y => by rw [hr, hm, Except.error.injEq, eq_comm], hmet⟩
  | ok a =>
    refine hf a hm (hmet.succ fun y hy => ?_)
    rw [(hr y).mp hy] at hm
    cases hm

theorem explained_hostName (hmet : MetBelow e provider host c 6) (f : ServerName → α) :
    Explained e provider host c ((ServerName.ofHost host).map f) := by
  have h : Explained e provider host c
      ((ServerName.ofHost host).bind fun server => .ok (f server)) :=
    .bind .hostName hmet (fun y => unmet_hostName_iff) fun server _ hmet =>
      .inl ⟨⟨f server, rfl⟩, hmet⟩
  cases hs : ServerName.ofHost host <;> rwa [hs] at h

/-- **The stages from the client's identity on.** -/
theorem explained_identity (hmet : MetBelow e provider host c 3)
    (f : Option Credentials.ClientIdentity → Option ClientSigner → ServerName → α) :
    Explained e provider host c (c.loadIdentity.1.bind fun i =>
      (e.clientOf i).result.bind fun client => (ServerName.ofHost host).map (f i client)) := by
  cases hhalf : c.hasClientIdentity with
  | false =>
    have hnot {r} (hr : r = .clientChain ∨ r = .privateKey ∨ r = .keyPair) (y : TransportError) :
        ¬Unmet e provider host c r y := fun h => by
      rw [hasClientIdentity_of_unmet h hr] at hhalf
      cases hhalf
    rw [Credentials.loadIdentity_of_half hhalf]
    refine explained_hostName (.succ (r := .keyPair) (.succ (r := .privateKey)
      (.succ (r := .clientChain) hmet (hnot ?_)) (hnot ?_)) (hnot ?_)) (f none none) <;> simp
  | true =>
    obtain ⟨hb, hk⟩ := Bool.and_eq_true_iff.mp hhalf
    obtain ⟨b, hb⟩ := Option.isSome_iff_exists.mp hb
    obtain ⟨k, hk⟩ := Option.isSome_iff_exists.mp hk
    rw [Credentials.loadIdentity_fst hb hk, Except.bind_assoc]
    refine .bind .clientChain hmet (fun y => unmet_clientChain_iff hb hk)
      fun chain hchain hmet => ?_
    rw [Except.bind_map]
    refine .bind .privateKey hmet (fun y => unmet_privateKey_iff hb hk) fun key hkey hmet => ?_
    rw [Except.mapError_eq_ok_iff] at hchain hkey
    exact .bind .keyPair hmet (fun y => unmet_keyPair_iff hb hk hchain hkey)
      fun client _ hmet => explained_hostName hmet (f _ client)

/-- **The result of a setup is explained by the requirements.** -/
theorem explained_configure (h : e.MakesVerifiers) (provider : Provider) (host : String)
    (c : Credentials) (config : TransportConfig) :
    Explained e provider host c (e.configure provider host c config).result := by
  rw [Engine.configure_result h, Credentials.load_fst]
  refine .bind .versions (fun q y hq => absurd hq (Nat.not_lt_zero _)) (fun y => unmet_versions_iff)
    fun _ _ hmet => ?_
  rw [Except.bind_assoc]
  refine .bind .rootPresence hmet (fun y => unmet_rootPresence_iff) fun b hb hmet => ?_
  rw [Except.bind_assoc]
  have hroot := Credentials.rootCa_of_rootBytes hb
  refine .bind .rootParsing hmet (fun y => unmet_rootParsing_iff hroot) fun anchors _ hmet => ?_
  rw [Except.bind_map]
  exact explained_identity hmet fun i => assembled provider host c config ⟨anchors, i⟩

theorem Explained.eq_error_iff {m : Except TransportError α}
    (h : Explained e provider host c m) :
    m = .error x ↔ ∃ r, FirstUnmet e provider host c r x := by
  obtain ⟨⟨a, rfl⟩, hmet⟩ | ⟨q, z, rfl, hz, hmet⟩ := h
  · refine ⟨fun hx => (by cases hx), ?_⟩
    rintro ⟨r, hr, -⟩
    exact absurd hr (hmet r x (by cases r <;> decide))
  · constructor
    · intro hx
      exact ⟨q, (hz x).mpr (Except.error.inj hx).symm, hmet⟩
    · rintro ⟨r, hr, hfirst⟩
      -- neither of the two comes before the other
      have hle : ¬r.rank < q.rank := fun hlt => hmet r x hlt hr
      have hge : ¬q.rank < r.rank := fun hlt => hfirst q z hlt ((hz z).mpr rfl)
      obtain rfl : r = q := Requirement.rank_injective (by omega)
      rw [(hz x).mp hr]

theorem Explained.eq_ok_iff {m : Except TransportError α} (h : Explained e provider host c m) :
    (∃ a, m = .ok a) ↔ ∀ r y, ¬Unmet e provider host c r y := by
  obtain ⟨⟨a, rfl⟩, hmet⟩ | ⟨q, z, rfl, hz, hmet⟩ := h
  · exact ⟨fun _ r y => hmet r y (by cases r <;> decide), fun _ => ⟨a, rfl⟩⟩
  · refine ⟨fun ⟨a, ha⟩ => (by cases ha), fun hall => ?_⟩
    exact absurd ((hz z).mpr rfl) (hall q z)

/-! ### Setups -/

theorem isSome_of_clientOf {i : Option Credentials.ClientIdentity} {client : Option ClientSigner}
    (h : (e.clientOf i).result = .ok client) : client.isSome = i.isSome := by
  cases i with
  | none =>
    cases h
    rfl
  | some i =>
    unfold Engine.clientOf at h
    dsimp only at h
    split at h <;> cases h
    rfl

theorem isSome_client_of_configure (h : e.MakesVerifiers) {config : TransportConfig}
    {setup : SessionSetup} (hs : (e.configure provider host c config).result = .ok setup) :
    setup.client.isSome = c.hasClientIdentity := by
  rw [Engine.configure_result h] at hs
  obtain ⟨_, -, hs⟩ := Except.bind_eq_ok_iff.mp hs
  obtain ⟨loaded, hl, hs⟩ := Except.bind_eq_ok_iff.mp hs
  obtain ⟨client, hc, hs⟩ := Except.bind_eq_ok_iff.mp hs
  obtain ⟨server, -, rfl⟩ := Except.map_eq_ok_iff.mp hs
  rw [assembled, isSome_of_clientOf hc, (Credentials.load_ok hl).2]

/-- **What a setup requires.** It fails exactly with the error of the first requirement that is
unmet, and succeeds exactly if none is. A load that succeeds has a root, of which a verifier is
made, and an identity exactly if both halves were supplied; so has the setup. -/
theorem configure_eq_error_iff (h : e.MakesVerifiers) (provider : Provider) (host : String)
    (c : Credentials) (config : TransportConfig) :
    (∀ x, (e.configure provider host c config).result = .error x ↔
      ∃ r, FirstUnmet e provider host c r x) ∧
    ((∃ setup, (e.configure provider host c config).result = .ok setup) ↔
      ∀ r x, ¬Unmet e provider host c r x) ∧
    (∀ loaded, c.load.1 = .ok loaded → loaded.roots ≠ [] ∧
      (∀ p, e.buildVerifier loaded.roots p = .ok ()) ∧
      loaded.identity.isSome = c.hasClientIdentity) ∧
    (∀ setup, (e.configure provider host c config).result = .ok setup →
      setup.client.isSome = c.hasClientIdentity) ∧
    (e.accept = signerOf →
      e.configure provider host c config = SessionSetup.configure provider host c config) := by
  have hexplained := explained_configure h provider host c config
  refine ⟨fun x => hexplained.eq_error_iff, hexplained.eq_ok_iff, fun loaded hl => ?_,
    fun setup hs => isSome_client_of_configure h hs, fun ha => configure_eq h ha config⟩
  obtain ⟨hne, hidentity⟩ := Credentials.load_ok hl
  exact ⟨hne, Engine.buildVerifier_of_ne h hne, hidentity⟩

/-- The host cannot be used, and of the client's identity the chain and the key: what is reported
is the chain. -/
theorem configure_eq_error_iff_chain :
    let c := { Credentials.bareRoot with clientCert := some [], privateKey := some [] }
    Engine.standard.MakesVerifiers ∧
      FirstUnmet Engine.standard (.standard .lasting) "" c .clientChain
        (.invalidCredentials (.clientCertificate "not a PEM document or DER certificate")) := by
  intro c
  refine ⟨Engine.makesVerifiers_standard, ?_⟩
  have hrun : (Engine.standard.configure (.standard .lasting) "" c .defaults).result.map
      (fun _ => ()) =
        .error (.invalidCredentials
          (.clientCertificate "not a PEM document or DER certificate")) := by
    decide +kernel
  obtain ⟨r, hr⟩ := ((configure_eq_error_iff Engine.makesVerifiers_standard (.standard .lasting) ""
    c .defaults).1 _).mp (Except.map_eq_error_iff.mp hrun)
  generalize hx : TransportError.invalidCredentials (.clientCertificate _) = x at hr
  cases hr.1 with
  | chainDocument | chainElement => exact hr
  | pairCertificate hb _ hchain =>
    cases hb
    cases hchain
  | _ => cases hx

end SessionSetup

end SecureStream
