import SecureStream.Proofs.Transport.Stages

/-! # The first failure of a connect

A connect looks at its arguments, closes the session there is, and goes through its stages (`Comes`,
`connect_iff`). So its error is that of the first stage that fails, nothing of a later stage is
done, and what was acquired is given back (`connect_stops`). -/

namespace SecureStream.Transport

variable {ω σ κ : Type} {b : Backing ω σ κ} {host : String} {port : ℕ} {c : Credentials}
  {config : TransportConfig} {fuel : ℕ}

/-- A connect that begins. -/
def attempted (e : Env ω) : Env ω := e.count .connects 1

/-- A connect that failed. -/
def reported (x : TransportError) (e : Env ω) : Env ω :=
  (e.count (.failedConnects x.status.label) 1).log
    [.failure "TLS connect failed" [("error", x.message), ("status", x.status.label)]]

section
variable (b : Backing ω σ κ) (host : String) (port : ℕ) (c : Credentials) (config : TransportConfig)
  (fuel : ℕ)

/-- **What a connect comes to.** -/
inductive Comes (t : Transport σ κ) (e : Env ω) :
    Except TransportError Unit → Transport σ κ → Env ω → Prop
  /-- The arguments are not there, and nothing is done. -/
  | refused {x} (ha : checkArguments host c = .error x) :
    Comes t e (.error x) t (reported x (attempted e))
  /-- A stage fails, and the socket is given back. -/
  | fails {p f x f'} (ha : checkArguments host c = .ok ())
      (hp : Passed b host port c config fuel (t.vacate b (attempted e)).2 p f)
      (hf : Fails b host port c config fuel p f x f') :
    Comes t e (.error x) allocated (reported x (p.release b f'))
  /-- All stages are passed. -/
  | connects {k s f} (ha : checkArguments host c = .ok ())
      (hp : Passed b host port c config fuel (t.vacate b (attempted e)).2 (.ready k s) f) :
    Comes t e (.ok ()) ⟨.connected, some ⟨k, s⟩⟩ (f.count .activeConnections 1)

end

theorem tryConnect_of_arguments {t : Transport σ κ} (ht : t.Settled)
    (ha : checkArguments host c = .ok ()) (e : Env ω) :
    tryConnect b host port c config fuel t e =
      (openSession b host port c config fuel (t.vacate b e).2).map fun
        | (.ok l, e) => (.ok (), ⟨.connected, some l⟩, e.count .activeConnections 1)
        | (.error x, e) => (.error x, allocated, e) := by
  obtain ⟨hv, hn, -⟩ := vacate_spec (b := b) ht e
  unfold tryConnect
  rw [ha]
  generalize t.vacate b e = v at hv hn ⊢
  obtain ⟨⟨state, session⟩, e₁⟩ := v
  dsimp only at hv hn ⊢
  obtain rfl : session = none := hv.session_eq_none hn
  rw [transition_connecting hn hv.idle]
  rcases openSession b host port c config fuel e₁ with _ | ⟨x | l, e₂⟩ <;> rfl

/-- **A connect comes to this and to nothing else.** -/
theorem connect_iff {t t' : Transport σ κ} {e e' : Env ω} {r : Except TransportError Unit}
    (ht : t.Settled) :
    t.connect b host port c config fuel e = some (r, t', e') ↔
      Comes b host port c config fuel t e r t' e' := by
  unfold connect
  cases ha : checkArguments host c with
  | error x =>
    have hc : tryConnect b host port c config fuel t (e.count .connects 1) =
        some (.error x, t, e.count .connects 1) := by
      rw [tryConnect, ha]
    rw [hc]
    constructor
    · intro h
      cases h
      exact .refused ha
    · intro h
      cases h with
      | refused ha' =>
        cases ha.symm.trans ha'
        rfl
      | fails ha' | connects ha' => cases ha.symm.trans ha'
  | ok u =>
    rw [tryConnect_of_arguments ht ha, Option.map_map]
    constructor
    · intro h
      obtain ⟨⟨x | l, f⟩, ho, hr⟩ := Option.map_eq_some_iff.mp h
      · cases hr
        obtain ⟨p, f', f'', hp, hf, rfl⟩ := openSession_eq_error_iff.mp ho
        exact .fails ha hp hf
      · cases hr
        exact .connects ha (openSession_eq_ok_iff.mp ho)
    · intro h
      cases h with
      | refused ha' => cases ha.symm.trans ha'
      | @fails p f x f' _ hp hf =>
        have ho := openSession_eq_error_iff.mpr ⟨p, f, f', hp, hf, rfl⟩
        exact Option.map_eq_some_iff.mpr ⟨_, ho, rfl⟩
      | @connects k s f _ hp =>
        have ho := openSession_eq_ok_iff.mpr hp
        exact Option.map_eq_some_iff.mpr ⟨_, ho, rfl⟩

/-! ### The arguments and the session before -/

theorem checkArguments_eq_error_iff {x : TransportError} :
    checkArguments host c = .error x ↔
      host = "" ∧ x = .invalidParameter "host cannot be empty" ∨
      host ≠ "" ∧ (c.rootCa = none ∨ c.rootCa = some []) ∧
        x = .invalidParameter "root CA cannot be empty" := by
  unfold checkArguments Credentials.rootBytes
  by_cases hh : host = ""
  · rw [if_pos (by simp [hh])]
    refine ⟨fun h => .inl ⟨hh, ?_⟩, ?_⟩
    · cases h
      rfl
    · rintro (⟨-, rfl⟩ | ⟨hn, -⟩)
      · rfl
      · exact absurd hh hn
  · rw [if_neg (by simpa using hh)]
    rcases c.rootCa with _ | _ | ⟨o, rest⟩
    all_goals
      constructor
      · intro h
        cases h <;> exact .inr ⟨hh, by simp, rfl⟩
      · rintro (⟨h, -⟩ | ⟨-, h, rfl⟩)
        · exact absurd h hh
        · first | rfl | simp at h

/-- **A disconnect closes the socket of the session**, after what the peer is told. -/
theorem disconnect_closes {t : Transport σ κ} {l : Live σ κ} (ht : t.Settled)
    (hl : t.session = some l) (e : Env ω) :
    ∃ f, Env.Adds Env.Exchanges e f ∧ t.disconnect b e =
      (⟨.disconnected, none⟩, (f.close b.sockets l.socket).count .activeConnections (-1)) := by
  have hs : t.state = .connected := ht.session_iff.mp (by rw [hl]; rfl)
  unfold disconnect
  rw [if_neg (by simpa using hs), hl]
  have hk := Env.adds_keeps (P := Env.Exchanges) b.sockets l.socket (.inl rfl) (.inr rfl)
  have hf := Session.flush_keeps hk.stream (l.tls.closeNotify b.protocol) e
  exact ⟨_, hf.congr (reportClose_calls _ _), rfl⟩

/-- **A connected transport closes its session first**: its socket, after what the peer is told. -/
theorem vacate_closes {t : Transport σ κ} {l : Live σ κ} (ht : t.Settled) (hl : t.session = some l)
    (e : Env ω) :
    ∃ f, Env.Adds Env.Exchanges e f ∧
      (t.vacate b e).2 = (f.close b.sockets l.socket).count .activeConnections (-1) := by
  have hs : t.state = .connected := ht.session_iff.mp (by rw [hl]; rfl)
  obtain ⟨f, hf, hd⟩ := disconnect_closes (b := b) ht hl
    (e.log [.warning "connect called on a connected transport; closing the old session" []])
  refine ⟨f, (Env.Adds.of_calls_eq rfl).trans hf, ?_⟩
  rw [vacate, if_pos hs, hd]

/-! ### All of it -/

/-- **What holds of a connect of `t` in `e`**, with whatever stages fail. -/
structure Orderly (b : Backing ω σ κ) (host : String) (port : ℕ) (c : Credentials)
    (config : TransportConfig) (fuel : ℕ) (t : Transport σ κ) (e : Env ω) : Prop where
  /-- It stops at the first stage that fails, and at none only behind the last one. -/
  comes : ∀ r t' e', t.connect b host port c config fuel e = some (r, t', e') ↔
    Comes b host port c config fuel t e r t' e'
  /-- It goes well exactly if the arguments are there and no stage that is reached fails. -/
  ok_iff : ∀ r t' e', t.connect b host port c config fuel e = some (r, t', e') →
    (r = .ok () ↔ checkArguments host c = .ok () ∧ ∀ p f x f',
      Passed b host port c config fuel (t.vacate b (attempted e)).2 p f →
        ¬Fails b host port c config fuel p f x f')
  /-- The arguments that are refused, and how. -/
  arguments : ∀ x, checkArguments host c = .error x ↔
    host = "" ∧ x = .invalidParameter "host cannot be empty" ∨
    host ≠ "" ∧ (c.rootCa = none ∨ c.rootCa = some []) ∧
      x = .invalidParameter "root CA cannot be empty"
  /-- A refusal changes nothing but what is logged and counted. -/
  untouched : ∀ x, (reported x (attempted e)).world = e.world ∧
    (reported x (attempted e)).runtime = e.runtime ∧
    (reported x (attempted e)).journal.calls = e.journal.calls
  /-- Where a stage fails, and what it shows as. -/
  shows : ∀ p f x, (∃ f', Fails b host port c config fuel p f x f') ↔
    Shows b host port c config fuel p f x
  /-- Without a connection the stages begin at once, -/
  vacant : t.state ≠ .connected → (t.vacate b (attempted e)).2 = attempted e
  /-- else when the session before is closed. -/
  closes : ∀ l, t.session = some l → ∃ f, Env.Adds Env.Exchanges e f ∧
    (t.vacate b (attempted e)).2 = (f.close b.sockets l.socket).count .activeConnections (-1)
  /-- A socket that was opened is neither closed nor followed by another before a stage fails, and
  then it is closed; without a socket nothing is. -/
  releases : ∀ p f x f',
    Passed b host port c config fuel (t.vacate b (attempted e)).2 p f →
    Fails b host port c config fuel p f x f' →
    p = .vacant ∧ p.release b f' = f' ∨
    ∃ k e₁, (t.vacate b (attempted e)).2.socket b.sockets config.family = (.ok k, e₁) ∧
      Env.Adds Stays e₁ f' ∧ p.release b f' = f'.close b.sockets k

/-- **A connect fails at the first stage that fails, and gives back what it acquired.** -/
theorem connect_stops {t : Transport σ κ} (ht : t.Settled) (e : Env ω) :
    Orderly b host port c config fuel t e where
  comes _ _ _ := connect_iff ht
  ok_iff r t' e' h := by
    constructor
    · rintro rfl
      cases (connect_iff ht).mp h with
      | connects ha hp =>
        refine ⟨ha, fun q f x f' hq hf => ?_⟩
        have ho := openSession_eq_ok_iff.mpr hp
        cases ho.symm.trans (openSession_eq_error_iff.mpr ⟨q, f, f', hq, hf, rfl⟩)
    · rintro ⟨ha, hn⟩
      cases (connect_iff ht).mp h with
      | refused ha' => cases ha.symm.trans ha'
      | fails _ hp hf => exact absurd hf (hn _ _ _ _ hp)
      | connects => rfl
  arguments _ := checkArguments_eq_error_iff
  untouched _ := ⟨rfl, rfl, rfl⟩
  shows _ _ _ := exists_fails_iff
  vacant hn := by rw [vacate, if_neg hn]
  closes l hl := vacate_closes ht hl (attempted e)
  releases p f x f' hp hf := by
    rcases passed_socket hp with ⟨rfl, rfl⟩ | ⟨k, e₁, hk, he, ha⟩
    · exact .inl ⟨rfl, rfl⟩
    · refine .inr ⟨k, e₁, he, ha.trans (advance_adds hk hf).1, ?_⟩
      rw [Connecting.release, hk]

/-- A connected transport is connected again, and the runtime is gone: the session before is closed,
a socket is opened and connected, and closed again for want of a provider. -/
theorem connect_stops_unprovided :
    ∃ (t : Transport Bytes Unit) (e : Env Script), t.Settled ∧ t.state = .connected ∧
      Orderly (Script.backing .plain) "host" 443 .bareRoot .defaults 1 t e ∧
      ∃ p f x f', Passed (Script.backing .plain) "host" 443 .bareRoot .defaults 1
          (t.vacate (Script.backing .plain) (attempted e)).2 p f ∧
        Fails (Script.backing .plain) "host" 443 .bareRoot .defaults 1 p f x f' ∧
        (reported x (p.release (Script.backing .plain) f')).journal.calls.toList.map
            SocketCall.request =
          [.close, .socket .ipv4 .stream .tcp,
            .setOption (.recvTimeout (some TransportConfig.fiveSeconds)),
            .setOption (.sendTimeout (some TransportConfig.fiveSeconds)),
            .connect "host" 443, .close] := by
  let t : Transport Bytes Unit := ⟨.connected, some ⟨(), .fresh [] []⟩⟩
  let e : Env Script := ⟨⟨.const (.ok 1), .const (.ok []), []⟩, .empty, .empty⟩
  have ht : t.Settled := settled_of_live rfl rfl
  have ho : Orderly (Script.backing .plain) "host" 443 .bareRoot .defaults 1 t e :=
    connect_stops ht e
  have hrun : (t.connect (Script.backing .plain) "host" 443 .bareRoot .defaults 1 e).map
      (fun o => (o.2.1.state, o.2.2.journal.calls.toList.map SocketCall.request)) =
        some (.allocated, [.close, .socket .ipv4 .stream .tcp,
          .setOption (.recvTimeout (some TransportConfig.fiveSeconds)),
          .setOption (.sendTimeout (some TransportConfig.fiveSeconds)),
          .connect "host" 443, .close]) := by
    decide +kernel
  obtain ⟨⟨r, t', e'⟩, hr, hs⟩ := Option.map_eq_some_iff.mp hrun
  obtain ⟨hstate, hcalls⟩ := Prod.mk.inj hs
  cases (ho.comes _ _ _).mp hr with
  | refused ha => cases hstate
  | fails _ hp hf => exact ⟨t, e, ht, rfl, ho, _, _, _, _, hp, hf, hcalls⟩
  | connects => cases hstate

end SecureStream.Transport
