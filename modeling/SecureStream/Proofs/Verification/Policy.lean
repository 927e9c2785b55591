import SecureStream.Proofs.Credentials.Failures
import SecureStream.Proofs.Scripted
import SecureStream.Proofs.Verification.NameErrors
import SecureStream.Session.Setup

/-! # What a session's verifier accepts

A setup succeeds if every stage does (`configure_ok`). Then its verifier is made of the roots that
were loaded, the algorithms that the profile leaves, and the two flags that make it less strict; no
other part of the credentials and of the configuration goes into it.

* `configure_policy`: what the verifier accepts, and that the log warns exactly if it is not
  strict. -/

namespace SecureStream

open Tls (CertificateError)

variable {α β : Type}

/-! ### Results with a log -/

/-- **A computation of two parts** succeeds if both do, and logs what both log. -/
theorem Logged.bind_ok {x : Logged α} {f : α → Logged β} {b : β} (h : (x >>= f).result = .ok b) :
    ∃ a, x.result = .ok a ∧ (f a).result = .ok b ∧ (x >>= f).events = x.events ++ (f a).events := by
  rw [result_bind] at h
  obtain ⟨a, ha, hf⟩ := Except.bind_eq_ok_iff.mp h
  exact ⟨a, ha, hf, events_bind ha f⟩

namespace SessionSetup

variable {provider : Provider} {host : String} {c : Credentials} {config : TransportConfig}
  {setup : SessionSetup}

/-- **A setup that succeeds**, stage by stage. -/
theorem configure_ok (h : (configure provider host c config).result = .ok setup) :
    ∃ loaded, (checkProvider provider).result = .ok () ∧ c.load.1 = .ok loaded ∧
      (clientOf loaded.identity).result = .ok setup.client ∧
      ServerName.ofHost host = .ok setup.server ∧
      setup.verifier = ⟨(strictnessOf c host).1, loaded.roots,
        (config.profile.restrict provider).signatures⟩ ∧
      (configure provider host c config).events =
        (checkProvider provider).events ++ c.load.2 ++ (strictnessOf c host).2 ++
          (clientOf loaded.identity).events ++ (offeredAlpn c.alpnProtocols).2 ++
          (usableFragmentSize config.maxFragmentSize).2 := by
  unfold configure at h ⊢
  generalize strictnessOf c host = strictness at h ⊢
  generalize offeredAlpn c.alpnProtocols = alpn at h ⊢
  generalize usableFragmentSize config.maxFragmentSize = size at h ⊢
  obtain ⟨strictness, warnings⟩ := strictness
  obtain ⟨protocols, alpnEvents⟩ := alpn
  obtain ⟨size, sizeEvents⟩ := size
  dsimp only at h ⊢
  obtain ⟨_, h₁, h, he₁⟩ := Logged.bind_ok h
  obtain ⟨loaded, h₂, h, he₂⟩ := Logged.bind_ok h
  obtain ⟨-, -, h, he₃⟩ := Logged.bind_ok h
  obtain ⟨client, h₄, h, he₄⟩ := Logged.bind_ok h
  obtain ⟨-, -, h, he₅⟩ := Logged.bind_ok h
  obtain ⟨-, -, h, he₆⟩ := Logged.bind_ok h
  obtain ⟨server, h₇, h, he₇⟩ := Logged.bind_ok h
  cases h
  refine ⟨loaded, h₁, h₂, h₄, h₇, rfl, ?_⟩
  rw [he₁, he₂, he₃, he₄, he₅, he₆, he₇]
  simp [Logged.ofExcept, pure, Logged.of]

/-! ### What the verifier is made of -/

theorem strictnessOf_fst (c : Credentials) (host : String) :
    (strictnessOf c host).1 =
      if c.acceptInvalidCerts then .anything
      else if c.acceptInvalidHostnames then .anyName else .strict := by
  unfold strictnessOf Credentials.verifyMode
  by_cases hc : c.acceptInvalidCerts
  · simp [hc]
  · by_cases hn : c.acceptInvalidHostnames <;> simp [hc, hn]

theorem signatures_restrict (profile : CertificateProfile) {p q : Provider}
    (h : p.signatures = q.signatures) :
    (profile.restrict p).signatures = (profile.restrict q).signatures := by
  cases profile
  · exact h
  · exact congrArg CertificateProfile.suiteBTable h

end SessionSetup

/-! ### What the verifier accepts -/

namespace Verifier

theorem forgiveName_eq_ok_iff (r : Except CertificateError Unit) :
    forgiveName r = .ok () ↔ r = .ok () ∨ ∃ e, r = .error e ∧ isAboutName e = true := by
  cases r with
  | ok u => simp [forgiveName]
  | error e => by_cases h : isAboutName e <;> simp [forgiveName, h]

/-- **What a verifier accepts**, by the two flags that it was made with. -/
theorem judge_eq_ok_iff {certs names : Bool} (roots : List X509.TrustAnchor)
    (signatures : Signature.Table) (p : Presented) :
    judge ⟨if certs then .anything else if names then .anyName else .strict, roots, signatures⟩ p =
        .ok () ↔
      certs = true ∨ judgeStrictly roots signatures.algorithms p = .ok () ∨
        names = true ∧ ∃ e, judgeStrictly roots signatures.algorithms p = .error e ∧
          isAboutName e = true := by
  cases certs with
  | true => simp [judge]
  | false =>
    cases names with
    | true => simp [judge, forgiveName_eq_ok_iff]
    | false => simp [judge]

end Verifier

/-! ### Warnings -/

namespace SessionSetup

variable {provider : Provider} {host : String} {c : Credentials} {config : TransportConfig}
  {setup : SessionSetup}

/-- **A warning that a part of the verification is switched off.** -/
def isDisabledWarning (e : LogEvent) : Bool :=
  e.level == .warn &&
    (e.message ==
        "server certificate verification is DISABLED; the connection is open to man-in-the-middle attacks" ||
      e.message ==
        "server hostname verification is DISABLED; any certificate from the root CA is accepted")

@[simp] theorem isDisabledWarning_failure (message : String) (fields : List (String × String)) :
    isDisabledWarning (.failure message fields) = false := rfl

theorem countP_strictnessOf (c : Credentials) (host : String) :
    (strictnessOf c host).2.countP isDisabledWarning =
      if c.acceptInvalidCerts || c.acceptInvalidHostnames then 1 else 0 := by
  unfold strictnessOf Credentials.verifyMode
  by_cases hc : c.acceptInvalidCerts
  · simp [hc, isDisabledWarning, LogEvent.warning]
  · by_cases hn : c.acceptInvalidHostnames <;>
      simp [hc, hn, isDisabledWarning, LogEvent.warning]

theorem events_of_checkProvider (h : (checkProvider provider).result = .ok ()) :
    (checkProvider provider).events = [] := by
  unfold checkProvider at h ⊢
  split
  · rfl
  · next he =>
    rw [he] at h
    cases h

theorem events_of_clientOf {i : Option Credentials.ClientIdentity} {client : Option ClientSigner}
    (h : (clientOf i).result = .ok client) : (clientOf i).events = [] := by
  cases i with
  | none => rfl
  | some i =>
    unfold clientOf at h ⊢
    dsimp only at h ⊢
    split
    · rfl
    · next he =>
      rw [he] at h
      cases h

theorem countP_load (c : Credentials) : c.load.2.countP isDisabledWarning = 0 := by
  have hlogged {α : Type} (message : String) (r : Except CredentialError α) :
      (Credentials.logged message r).2.countP isDisabledWarning = 0 := by
    cases r <;> simp [Credentials.logged]
  have hidentity : c.loadIdentity.2.countP isDisabledWarning = 0 := by
    unfold Credentials.loadIdentity
    split
    · next cert key _ _ =>
      have hchain := hlogged "failed to parse the client certificate" (Credentials.clientChain cert)
      split
      · next he => rw [he] at hchain; exact hchain
      · next he =>
        rw [he] at hchain
        simp only [List.countP_append, hlogged, Nat.add_zero]
        exact hchain
    · simp [isDisabledWarning, LogEvent.warning]
    · simp [isDisabledWarning, LogEvent.warning]
    · rfl
  unfold Credentials.load
  split
  · rfl
  · next b _ =>
    have hroots := hlogged "failed to parse server root CA certificate" (Credentials.roots b)
    split
    · next he => rw [he] at hroots; exact hroots
    · next he =>
      rw [he] at hroots
      simp only [List.countP_append, hidentity, Nat.add_zero]
      exact hroots

theorem countP_offeredAlpn (protocols : Option (List Bytes)) :
    (offeredAlpn protocols).2.countP isDisabledWarning = 0 := by
  unfold offeredAlpn
  split
  · rfl
  · simp [isDisabledWarning, LogEvent.warning]
  · split <;> simp

theorem countP_usableFragmentSize (size : Option ℕ) :
    (usableFragmentSize size).2.countP isDisabledWarning = 0 := by
  unfold usableFragmentSize
  split
  · rfl
  · split <;> simp

/-! ### The policy -/

/-- **The strict judgement of a configuration**: by some roots and the algorithms that the profile
leaves of the provider's. -/
def strictJudgement (provider : Provider) (config : TransportConfig)
    (roots : List X509.TrustAnchor) (p : Presented) : Except CertificateError Unit :=
  Verifier.judgeStrictly roots (config.profile.restrict provider).signatures.algorithms p

/-- **The verification policy.** The verifier of a setup that succeeds accepts what the strict
judgement by the loaded roots accepts; with the one flag also what that judgement refuses for the
name alone, where a path was found, and with the other flag everything. It supports the schemes that
the profile leaves, the name that it judges by is that of the host, and the log warns once if a flag
is set and not otherwise. The root, the flags, the profile and the provider's signatures are all
that the verifier depends on. -/
theorem configure_policy (h : (configure provider host c config).result = .ok setup) :
    ∃ root anchors, c.rootCa = some root ∧ Credentials.roots root = .ok anchors ∧
      (∀ p, setup.verifier.judge p = .ok () ↔
        c.acceptInvalidCerts = true ∨ strictJudgement provider config anchors p = .ok () ∨
          c.acceptInvalidHostnames = true ∧ ∃ e,
            strictJudgement provider config anchors p = .error e ∧
              ((∃ server presented, e = .notValidForName server presented) ∨
                e = .named "NotValidForName")) ∧
      (∀ p e, strictJudgement provider config anchors p = .error e → Verifier.isAboutName e = true →
        ∃ certificate, X509.Certificate.read .refuse p.endEntity = .ok certificate ∧
          X509.Path.verify ⟨(config.profile.restrict provider).signatures.algorithms, anchors,
            p.intermediates, .serverAuth, p.now⟩ certificate = .ok () ∧
          X509.Subject.check certificate p.server = .error e) ∧
      setup.verifier.supportedSchemes =
        (config.profile.restrict provider).signatures.supportedSchemes ∧
      ServerName.ofHost host = .ok setup.server ∧
      (configure provider host c config).events.countP isDisabledWarning =
        (if c.acceptInvalidCerts || c.acceptInvalidHostnames then 1 else 0) ∧
      ∀ provider' host' c' config' setup',
        (configure provider' host' c' config').result = .ok setup' →
        c'.rootCa = c.rootCa → c'.acceptInvalidCerts = c.acceptInvalidCerts →
        c'.acceptInvalidHostnames = c.acceptInvalidHostnames → config'.profile = config.profile →
        provider'.signatures = provider.signatures → setup'.verifier = setup.verifier := by
  obtain ⟨loaded, hprovider, hload, hclient, hserver, hverifier, hevents⟩ := configure_ok h
  obtain ⟨root, hroot, hroots, -⟩ := Credentials.stages_of_load hload
  rw [strictnessOf_fst] at hverifier
  refine ⟨root, loaded.roots, hroot, hroots, fun p => ?_, fun p e => Verifier.path_of_aboutName, ?_,
    hserver, ?_, ?_⟩
  · rw [hverifier, Verifier.judge_eq_ok_iff]
    simp only [Verifier.isAboutName_iff]
    rfl
  · rw [hverifier]
    rfl
  · rw [hevents, events_of_checkProvider hprovider, events_of_clientOf hclient]
    simp only [List.countP_append, List.countP_nil, countP_load, countP_strictnessOf,
      countP_offeredAlpn, countP_usableFragmentSize, Nat.zero_add, Nat.add_zero]
  · intro provider' host' c' config' setup' h' hrootCa hcerts hnames hprofile hsignatures
    obtain ⟨loaded', -, hload', -, -, hverifier', -⟩ := configure_ok h'
    obtain ⟨root', hroot', hroots', -⟩ := Credentials.stages_of_load hload'
    obtain rfl : root' = root := Option.some.inj (hroot'.symm.trans (hrootCa.trans hroot))
    have hanchors : loaded'.roots = loaded.roots := Except.ok.inj (hroots'.symm.trans hroots)
    rw [strictnessOf_fst] at hverifier'
    rw [hverifier', hverifier, hcerts, hnames, hanchors, hprofile,
      signatures_restrict config.profile hsignatures]

/-- A setup that forgives names: it warns once, and it accepts what is for another name. -/
theorem configure_policy_anyName :
    ∃ setup anchors, (configure (.standard .lasting) "localhost"
        { Credentials.bareRoot with acceptInvalidHostnames := true } .defaults).result = .ok setup ∧
      setup.server = .dns "localhost" ∧
      (∀ p e, strictJudgement (.standard .lasting) .defaults anchors p = .error e →
        Verifier.isAboutName e = true → setup.verifier.judge p = .ok ()) ∧
      (configure (.standard .lasting) "localhost"
        { Credentials.bareRoot with acceptInvalidHostnames := true } .defaults).events.countP
          isDisabledWarning = 1 := by
  have hrun : ((configure (.standard .lasting) "localhost"
      { Credentials.bareRoot with acceptInvalidHostnames := true } .defaults).result.map
        SessionSetup.server) = .ok (.dns "localhost") := by decide +kernel
  generalize hc : configure (.standard .lasting) "localhost"
    { Credentials.bareRoot with acceptInvalidHostnames := true } .defaults = o at hrun ⊢
  obtain ⟨_ | setup, events⟩ := o
  · cases hrun
  · have h := congrArg Logged.result hc
    obtain ⟨root, anchors, -, -, hjudge, -, -, -, hcount, -⟩ := configure_policy h
    rw [hc] at hcount
    refine ⟨setup, anchors, rfl, Except.ok.inj hrun, fun p e he hn => ?_, hcount⟩
    exact (hjudge p).mpr (.inr (.inr ⟨rfl, e, he, Verifier.isAboutName_iff.mp hn⟩))

end SessionSetup

end SecureStream
