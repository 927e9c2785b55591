import SecureStream.Proofs.Session.Requirements
import SecureStream.Proofs.Transport.Projection
import SecureStream.Proofs.Verification.Policy

/-! # Optional features of a session

The list of application protocols, the wish not to send the server's name and the size of records
are optional: a list or a size that cannot be used is dropped as a whole, with one log event
(`offeredAlpn_eq`, `usableFragmentSize_eq`). They stand apart from the rest of a setup, which
neither they nor the timeouts nor the address family have a part in (`configure_bare`). So a setup
is within the ranges of the library beneath, and its checks on these values find nothing
(`startSession_checking`).

`features_optional` is all of this. -/

namespace SecureStream

namespace SessionSetup

/-! ### Wishes that can be met -/

/-- **A list of application protocols that can be offered.** -/
def AlpnUsable (protocols : List Bytes) : Prop :=
  protocols ≠ [] ∧ ∀ p ∈ protocols, 1 ≤ p.length ∧ p.length ≤ 255

def SizeUsable (n : ℕ) : Prop := 32 ≤ n ∧ n ≤ 16389

instance : DecidablePred AlpnUsable := fun protocols =>
  inferInstanceAs (Decidable (protocols ≠ [] ∧ ∀ p ∈ protocols, 1 ≤ p.length ∧ p.length ≤ 255))

instance : DecidablePred SizeUsable := fun n => inferInstanceAs (Decidable (32 ≤ n ∧ n ≤ 16389))

theorem spoils_iff {p : Bytes} :
    (p.isEmpty || maxProtocolLength < p.length) = true ↔ ¬(1 ≤ p.length ∧ p.length ≤ 255) := by
  have hempty : p.isEmpty = true ↔ p.length = 0 := by
    rw [List.isEmpty_iff, List.length_eq_zero_iff]
  have hmax : maxProtocolLength = 255 := rfl
  rw [Bool.or_eq_true, hempty, decide_eq_true_iff, hmax]
  omega

/-- **The list is offered as it is, or not at all.** -/
theorem offeredAlpn_eq (wish : Option (List Bytes)) :
    (offeredAlpn wish).1 = (wish.filter (AlpnUsable ·)).getD [] ∧
      (offeredAlpn wish).2.length = if wish.any (¬AlpnUsable ·) then 1 else 0 := by
  rcases wish with _ | _ | ⟨p, rest⟩
  · exact ⟨rfl, rfl⟩
  · exact ⟨rfl, rfl⟩
  · unfold offeredAlpn
    dsimp only
    cases hf : (p :: rest).find? fun p => p.isEmpty || maxProtocolLength < p.length with
    | none =>
      have hu : AlpnUsable (p :: rest) := by
        refine ⟨List.cons_ne_nil p rest, fun q hq => ?_⟩
        by_contra hbad
        exact List.find?_eq_none.mp hf q hq (spoils_iff.mpr hbad)
      simp [Option.filter, hu]
    | some bad =>
      have hu : ¬AlpnUsable (p :: rest) := by
        rintro ⟨-, hall⟩
        have hspoils : (bad.isEmpty || maxProtocolLength < bad.length) = true :=
          List.find?_some (p := fun p : Bytes => p.isEmpty || maxProtocolLength < p.length) hf
        exact spoils_iff.mp hspoils (hall bad (List.mem_of_find?_eq_some hf))
      simp [Option.filter, hu]

theorem usableFragmentSize_eq (wish : Option ℕ) :
    (usableFragmentSize wish).1 = wish.filter (SizeUsable ·) ∧
      (usableFragmentSize wish).2.length = if wish.any (¬SizeUsable ·) then 1 else 0 := by
  rcases wish with _ | n
  · exact ⟨rfl, rfl⟩
  · have hiff : minRecordSize ≤ n ∧ n ≤ maxRecordSize ↔ SizeUsable n := Iff.rfl
    rw [usableFragmentSize]
    by_cases hn : SizeUsable n
    · simp [Option.filter, hiff.mpr hn, hn]
    · simp [Option.filter, hiff, hn]

/-! ### The rest of a setup -/

/-- A setup without its optional features. -/
def bare (setup : SessionSetup) : SessionSetup :=
  { setup with enableSni := false, alpn := [], maxFragmentSize := none }

variable {provider : Provider} {host : String} {c : Credentials} {config : TransportConfig}
  {setup : SessionSetup}

theorem optional_of_configure (h : (configure provider host c config).result = .ok setup) :
    setup.enableSni = !c.disableSni ∧ setup.alpn = (offeredAlpn c.alpnProtocols).1 ∧
      setup.maxFragmentSize = (usableFragmentSize config.maxFragmentSize).1 := by
  rw [configure_result] at h
  obtain ⟨_, -, h⟩ := Except.bind_eq_ok_iff.mp h
  obtain ⟨loaded, -, h⟩ := Except.bind_eq_ok_iff.mp h
  obtain ⟨client, -, h⟩ := Except.bind_eq_ok_iff.mp h
  obtain ⟨server, -, rfl⟩ := Except.map_eq_ok_iff.mp h
  exact ⟨rfl, rfl, rfl⟩

theorem bare_assembled {config' : TransportConfig} (hprofile : config'.profile = config.profile)
    (alpn : Option (List Bytes)) (disableSni : Bool) (loaded : Credentials.Loaded)
    (client : Option ClientSigner) (server : ServerName) :
    bare (assembled provider host { c with alpnProtocols := alpn, disableSni } config' loaded client
        server) =
      bare (assembled provider host c config loaded client server) := by
  simp only [bare, assembled, hprofile]
  rfl

/-- **The rest of a setup does not depend on what is optional.** -/
theorem configure_bare {config' : TransportConfig} (hprofile : config'.profile = config.profile)
    (alpn : Option (List Bytes)) (disableSni : Bool) :
    (configure provider host { c with alpnProtocols := alpn, disableSni } config').result.map bare =
      (configure provider host c config).result.map bare := by
  rw [configure_result, configure_result]
  have hload : ({ c with alpnProtocols := alpn, disableSni } : Credentials).load = c.load := rfl
  rw [hload]
  cases (checkProvider provider).result with
  | error x => rfl
  | ok u =>
    cases c.load.1 with
    | error x => rfl
    | ok loaded =>
      simp only [Except.bind]
      cases (clientOf loaded.identity).result with
      | error x => rfl
      | ok client =>
        cases ServerName.ofHost host with
        | error x => rfl
        | ok server =>
          exact congrArg Except.ok (bare_assembled hprofile alpn disableSni loaded client server)

/-! ### Events -/

/-- **What is logged for the features that are dropped** comes last. -/
theorem events_of_configure (h : (configure provider host c config).result = .ok setup) :
    (configure provider host c config).events =
      (configure provider host { c with alpnProtocols := none }
        { config with maxFragmentSize := none }).events ++
      (offeredAlpn c.alpnProtocols).2 ++ (usableFragmentSize config.maxFragmentSize).2 := by
  have hprofile : ({ config with maxFragmentSize := none } : TransportConfig).profile =
      config.profile := rfl
  have hplain : (configure provider host { c with alpnProtocols := none }
      { config with maxFragmentSize := none }).result.map bare =
        (configure provider host c config).result.map bare :=
    configure_bare hprofile none c.disableSni
  rw [h] at hplain
  obtain ⟨plain, hplain, -⟩ := Except.map_eq_ok_iff.mp hplain
  obtain ⟨loaded, -, hload, -, -, -, hevents⟩ := configure_ok h
  obtain ⟨loaded', -, hload', -, -, -, hevents'⟩ :=
    configure_ok (c := { c with alpnProtocols := none }) hplain
  obtain rfl : loaded' = loaded := Except.ok.inj (hload'.symm.trans hload)
  have hnone : (offeredAlpn none).2 = [] ∧ (usableFragmentSize none).2 = [] := ⟨rfl, rfl⟩
  dsimp only at hevents'
  rw [hnone.1, hnone.2, List.append_nil, List.append_nil] at hevents'
  rw [hevents, hevents']
  rfl

/-! ### The checks of the library beneath -/

/-- **A setup within the ranges.** -/
structure InRange (setup : SessionSetup) : Prop where
  alpn : ∀ p ∈ setup.alpn, 1 ≤ p.length ∧ p.length ≤ 255
  size : ∀ n, setup.maxFragmentSize = some n → SizeUsable n

theorem inRange_of_configure (h : (configure provider host c config).result = .ok setup) :
    setup.InRange := by
  obtain ⟨-, halpn, hsize⟩ := optional_of_configure h
  rw [(offeredAlpn_eq c.alpnProtocols).1] at halpn
  rw [(usableFragmentSize_eq config.maxFragmentSize).1] at hsize
  refine ⟨fun p hp => ?_, fun n hn => ?_⟩
  · rw [halpn] at hp
    cases hf : c.alpnProtocols.filter (AlpnUsable ·) with
    | none =>
      rw [hf] at hp
      cases hp
    | some protocols =>
      rw [hf] at hp
      have hu : AlpnUsable protocols := of_decide_eq_true (Option.filter_eq_some_iff.mp hf).2
      exact hu.2 p hp
  · rw [hsize] at hn
    exact of_decide_eq_true (Option.filter_eq_some_iff.mp hn).2

end SessionSetup

/-- A protocol that checks the setup first. -/
def Protocol.checking {σ : Type} (p : Protocol σ) (check : SessionSetup → Except TlsError Unit) :
    Protocol σ :=
  { p with
    start := fun setup source =>
      match check setup with
      | .ok () => p.start setup source
      | .error x => (.error x, source) }

namespace SessionSetup

variable {ω σ κ : Type} {host : String} {c : Credentials} {config : TransportConfig}

/-- **A check that holds within the ranges finds nothing.** -/
theorem startSession_checking (b : Backing ω σ κ) {check : SessionSetup → Except TlsError Unit}
    (hcheck : ∀ setup, InRange setup → check setup = .ok ()) (e : Env ω) :
    Transport.startSession (b.over (b.protocol.checking check)) host c config e =
      Transport.startSession b host c config e := by
  unfold Transport.startSession
  cases e.runtime.provider? with
  | none => rfl
  | some provider =>
    dsimp only
    cases h : (configure provider host c config).result with
    | error x => rfl
    | ok setup =>
      have hstart : (b.protocol.checking check).start setup provider.entropy =
          b.protocol.start setup provider.entropy := by
        simp only [Protocol.checking, hcheck setup (inRange_of_configure h)]
      simp only [Backing.over, hstart]

/-- **Optional features decide nothing.** Setups that differ in nothing else fail with the same
error or are the same but for these features. In a setup that succeeds the application protocols are
those that were wished for, if they can all be offered, or none; so is the size of records; the
server's name is sent unless it is not to be; and one event is logged for each wish that is dropped.
A library that checks these ranges again starts the same sessions. -/
theorem features_optional (b : Backing ω σ κ) (provider : Provider) (host : String)
    (c : Credentials) (config : TransportConfig) :
    (∀ alpn disableSni config', config'.profile = config.profile →
      (configure provider host { c with alpnProtocols := alpn, disableSni } config').result.map
          bare =
        (configure provider host c config).result.map bare) ∧
    (∀ setup, (configure provider host c config).result = .ok setup →
      setup.alpn = (c.alpnProtocols.filter (AlpnUsable ·)).getD [] ∧
      setup.maxFragmentSize = config.maxFragmentSize.filter (SizeUsable ·) ∧
      (setup.enableSni = !c.disableSni) ∧
      ∃ alpnEvents sizeEvents, (configure provider host c config).events =
          (configure provider host { c with alpnProtocols := none }
            { config with maxFragmentSize := none }).events ++ alpnEvents ++ sizeEvents ∧
        alpnEvents.length = (if c.alpnProtocols.any (¬AlpnUsable ·) then 1 else 0) ∧
        sizeEvents.length = if config.maxFragmentSize.any (¬SizeUsable ·) then 1 else 0) ∧
    ∀ check e, (∀ setup, InRange setup → check setup = .ok ()) →
      Transport.startSession (b.over (b.protocol.checking check)) host c config e =
        Transport.startSession b host c config e := by
  refine ⟨fun alpn disableSni config' hprofile => configure_bare hprofile alpn disableSni,
    fun setup h => ?_, fun check e hcheck => startSession_checking b hcheck e⟩
  obtain ⟨hsni, halpn, hsize⟩ := optional_of_configure h
  obtain ⟨halpn', hevents⟩ := offeredAlpn_eq c.alpnProtocols
  obtain ⟨hsize', hevents'⟩ := usableFragmentSize_eq config.maxFragmentSize
  exact ⟨halpn.trans halpn', hsize.trans hsize', hsni, _, _, events_of_configure h, hevents,
    hevents'⟩

/-- An entry without octets and a size of eight: both wishes are dropped, and the setup succeeds. -/
theorem features_optional_dropped :
    let c := { Credentials.bareRoot with alpnProtocols := some [[104, 50], []] }
    let config := { TransportConfig.defaults with maxFragmentSize := some 8 }
    ∃ setup, (configure (.standard .lasting) "localhost" c config).result = .ok setup ∧
      setup.alpn = [] ∧ setup.maxFragmentSize = none ∧ setup.enableSni = true ∧
      (configure (.standard .lasting) "localhost" c config).events.length =
        (configure (.standard .lasting) "localhost" Credentials.bareRoot .defaults).events.length +
          2 := by
  intro c config
  obtain ⟨halike, hok, -⟩ := features_optional (Script.backing .plain) (.standard .lasting)
    "localhost" c config
  have hplain : ((configure (.standard .lasting) "localhost" Credentials.bareRoot
      .defaults).result.map bare).isOk = true := by decide +kernel
  -- the bundle that wishes nothing differs in nothing else
  have heq := halike none false .defaults rfl
  cases h : (configure (.standard .lasting) "localhost" c config).result with
  | error x =>
    rw [h] at heq
    have hbad : (configure (.standard .lasting) "localhost" Credentials.bareRoot
        .defaults).result.map bare = .error x := heq
    rw [hbad] at hplain
    cases hplain
  | ok setup =>
    obtain ⟨halpn, hsize, hsni, alpnEvents, sizeEvents, hevents, hlen, hlen'⟩ := hok setup h
    have hdropped : c.alpnProtocols.any (¬AlpnUsable ·) = true := by decide
    have hdropped' : config.maxFragmentSize.any (¬SizeUsable ·) = true := by decide
    rw [if_pos hdropped] at hlen
    rw [if_pos hdropped'] at hlen'
    refine ⟨setup, rfl, halpn.trans (by decide), hsize.trans (by decide), hsni, ?_⟩
    rw [hevents, List.length_append, List.length_append, hlen, hlen']
    rfl

end SessionSetup

end SecureStream
