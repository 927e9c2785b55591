import SecureStream.Proofs.Transport.Moves
import SecureStream.Proofs.Transport.SocketUse

/-! # No octet of a session is lost, moved or sent twice

Every session begins with a socket that took nothing (`begins_of_passed`), and what then happens to
it is moves in a row; so in every run the session of a transport can be reached like that
(`points_of_runs`), and wherever a session can get all its octets are there
(`ciphertext_conserved`). -/

namespace SecureStream.Transport

variable {ω σ κ : Type} {b : Backing ω σ κ} {k : κ × ℕ} {host : String} {port : ℕ}
  {c : Credentials} {config : TransportConfig} {fuel : ℕ}

/-! ### Where a session can get -/

/-- **A session begins here**: it was just started, and the socket `k` has taken nothing. -/
inductive Begins (b : Backing ω σ κ) (k : κ × ℕ) :
    Session (σ × Bytes) → Env (ω × List Use) → Prop
  | start {setup source core records source' e}
      (h : b.observed.protocol.start setup source = (.ok (core, records), source'))
      (hw : wireOf k.2 e.uses = []) : Begins b k (.fresh core records) e

/-- **A session can get here** from where it began. -/
def Point (b : Backing ω σ κ) (k : κ × ℕ) (s : Session (σ × Bytes)) (e : Env (ω × List Use)) :
    Prop :=
  ∃ s₀ e₀, Begins b k s₀ e₀ ∧ Moves b k (s₀, e₀) (s, e)

section
variable {s s' : Session (σ × Bytes)} {e e' : Env (ω × List Use)}

theorem Begins.point (h : Begins b k s e) : Point b k s e := ⟨s, e, h, .refl _⟩

theorem Point.moves (h : Point b k s e) (hl : Moves b k (s, e) (s', e')) : Point b k s' e' := by
  obtain ⟨s₀, e₀, h₀, hs⟩ := h
  exact ⟨s₀, e₀, h₀, hs.trans hl⟩

theorem conserved_of_begins (h : Begins b k s e) : Conserved k.2 s e := by
  cases h with
  | @start setup source core records _ _ h hw =>
    simp only [Backing.observed, Protocol.producing, Protocol.annotated] at h
    unfold Conserved
    rw [hw, List.nil_append]
    rcases hr : b.protocol.start setup source with ⟨x | ⟨core', records'⟩, source'⟩
    all_goals
      rw [hr] at h
      cases h
    rfl

/-- **Wherever a session can get, all its octets are there.** -/
theorem conserved_of_point (hb : b.sockets.Honest) (h : Point b k s e) : Conserved k.2 s e := by
  obtain ⟨s₀, e₀, h₀, hs⟩ := h
  exact conserved_of_moves hb hs (conserved_of_begins h₀)

end

/-! ### The session of a connect -/

theorem start_of_passes {p : Connecting σ κ} {k : κ} {s : Session σ} {e f : Env ω}
    (h : Passes b host port c config fuel (p, e) (.started k s, f)) :
    ∃ setup source core records source',
      b.protocol.start setup source = (.ok (core, records), source') ∧ s = .fresh core records := by
  unfold Passes at h
  cases p with
  | vacant | opened | receiveLimited | limited | connected | provided =>
    simp only [advance] at h
    split at h <;> cases h
  | configured k' p setup =>
    simp only [advance] at h
    split at h
    · next core records hr =>
      cases h
      exact ⟨setup, p.entropy, core, records, _, Prod.ext hr rfl, rfl⟩
    · cases h
  | started k' s' =>
    obtain ⟨⟨x | s₁, e₁⟩, -, ho⟩ := Option.map_eq_some_iff.mp h <;> cases ho
  | ready k' s' => cases h

theorem drive_of_passes {p : Connecting σ κ} {k : κ} {s : Session σ} {e f : Env ω}
    (h : Passes b host port c config fuel (p, e) (.ready k s, f)) :
    ∃ s₀, p = .started k s₀ ∧ shakeHands b k config fuel s₀ e = some (.ok s, f) := by
  unfold Passes at h
  cases p with
  | vacant | opened | receiveLimited | limited | connected | provided | configured =>
    simp only [advance] at h
    split at h <;> cases h
  | started k' s₀ =>
    obtain ⟨⟨x | s₁, e₁⟩, hs, ho⟩ := Option.map_eq_some_iff.mp h
    all_goals cases ho
    exact ⟨s₀, rfl, hs⟩
  | ready k' s' => cases h

variable {h : List (Ran (ω × List Use))} {t t' : Transport (σ × Bytes) (κ × ℕ)}
  {e e' e₀ : Env (ω × List Use)} {s s' : Session (σ × Bytes)}

/-- **A connect begins its session** on a socket that was only made ready. -/
theorem begins_of_passed (ht : Tidy h t e₀)
    (hp : Passed b.observed host port c config fuel e₀ (.started k s) e) : Begins b k s e := by
  have hw : wireOf k.2 e.uses = [] := by
    rcases passed_calls hp with ⟨hp, -⟩ | ⟨k', l, hk, hc, rfl⟩
    · cases hp
    · cases hk
      refine wireOf_eq_nil fun u hu => ?_
      rw [hc.usesOf_same, ht.usesOf_next, List.nil_append] at hu
      simp only [made, setUp, List.map_cons, List.map_nil, List.mem_cons, List.not_mem_nil,
        or_false] at hu
      rcases hu with rfl | rfl | rfl | rfl
      all_goals
        intro hx
        cases hx
  cases hp with
  | tail _ hs =>
    obtain ⟨setup, source, core, records, source', hr, rfl⟩ := start_of_passes hs
    exact Begins.start hr hw

theorem moves_shakeHands
    (hs : shakeHands b.observed k config fuel s e = some (.ok s', e')) :
    Moves b k (s, e) (s', e') := by
  unfold shakeHands at hs
  obtain ⟨⟨f | stats, s₁, e₁⟩, hd, ho⟩ := Option.map_eq_some_iff.mp hs
  all_goals cases ho
  refine (moves_drive hd).trans (moves_aside s' ?_)
  split <;> rfl

theorem point_of_ready (ht : Tidy h t e₀)
    (hp : Passed b.observed host port c config fuel e₀ (.ready k s) e) : Point b k s e := by
  cases hp with
  | @tail y _ hp hs =>
    obtain ⟨q, f⟩ := y
    obtain ⟨s₀, rfl, hd⟩ := drive_of_passes hs
    exact (begins_of_passed ht hp).point.moves (moves_shakeHands hd)

/-! ### Runs -/

/-- The session of a transport, if there is one, is where it can get. -/
def AtPoint (b : Backing ω σ κ) (t : Transport (σ × Bytes) (κ × ℕ)) (e : Env (ω × List Use)) :
    Prop :=
  ∀ l, t.session = some l → Point b l.socket l.tls e

theorem AtPoint.aside (hp : AtPoint b t e) (hs : t'.session = t.session)
    (he : e'.uses = e.uses) : AtPoint b t' e' := by
  intro l hl
  rw [hs] at hl
  exact (hp l hl).moves (moves_aside l.tls he)

theorem atPoint_of_none (hs : t.session = none) : AtPoint b t e := by
  intro l hl
  rw [hs] at hl
  cases hl

theorem connect_atPoint (hs : t.Settled) (ht : Tidy h t e) (hp : AtPoint b t e)
    {r : Except TransportError Unit}
    (hc : t.connect b.observed host port c config fuel e = some (r, t', e')) :
    AtPoint b t' e' := by
  cases (connect_iff hs).mp hc with
  | refused _ => exact hp.aside rfl rfl
  | fails => exact atPoint_of_none rfl
  | connects _ hr =>
    rintro _ ⟨⟩
    exact (point_of_ready (vacate_tidy hs ht).1 hr).moves (moves_aside _ rfl)

theorem disconnect_atPoint (hp : AtPoint b t e) :
    AtPoint b (t.disconnect b.observed e).1 (t.disconnect b.observed e).2 := by
  rcases disconnect_calls (b := b) t e with ⟨hs, he⟩ | ⟨_, _, -, hn, -⟩
  · exact hp.aside hs he
  · exact atPoint_of_none hn

theorem moves_of_exchangeOn (hx : ExchangeOn b.observed k s e s' e') :
    Moves b k (s, e) (s', e') := by
  cases hx with
  | send data => exact moves_sendOn b k data s e
  | recv hr => exact moves_recvOn hr

theorem exchange_atPoint (hp : AtPoint b t e) {n : ℕ} (hx : Exchanging b.observed n t e t' e') :
    AtPoint b t' e' := by
  cases hx with
  | still => exact hp
  | on hl _ hx =>
    rintro _ ⟨⟩
    exact (hp _ (live_eq_ok_iff.mp hl).2).moves (moves_of_exchangeOn hx)

theorem run_atPoint (hs : t.Settled) (ht : Tidy h t e) (hp : AtPoint b t e) {op : Operation}
    {a : Answer} (ho : op.run b.observed fuel t e = some (a, t', e')) : AtPoint b t' e' := by
  cases op with
  | connect | connectWith =>
    obtain ⟨⟨r, t₁, e₁⟩, hc, he⟩ := Option.map_eq_some_iff.mp ho
    cases he
    exact connect_atPoint hs ht hp hc
  | send | recv | recvBuffer => exact exchange_atPoint hp (run_exchanging rfl ho)
  | disconnect =>
    cases ho
    exact disconnect_atPoint hp

/-- **All operations of a run**, by induction over them. -/
theorem points_of_runs {e₀ : Env ω} (hr : Runs b.observed Env.Silent e₀.watched h t e) :
    AtPoint b t e := by
  induction hr with
  | allocated => exact atPoint_of_none rfl
  | step hr ho ih =>
    have hs := (reachable_kept (hr.reachable fun _ _ ha => ha.1)).settled
    exact run_atPoint hs (tidy_of_runs hr) ih ho
  | aside _ ha ih => exact ih.aside rfl ha.2

/-- **No octet of a session is lost, moved or sent twice.** Over honest sockets, whatever is done
with a transport: with all calls and all records written down, its session is where moves can lead a
session that began with nothing on its socket, and a connect from here begins a session like that.
Wherever moves lead, the octets that the socket took and those that wait are, one behind the other,
all that the protocol produced since the session began; and every way to use a session, whatever
comes of it, is moves in a row. -/
theorem ciphertext_conserved (hb : b.sockets.Honest) {e₀ e : Env ω} {l : List (Ran ω)}
    {t : Transport σ κ} (h : Runs b Env.Quiet e₀ l t e) :
    (∃ l' t' e', Runs b.observed Env.Silent e₀.watched l' t' e' ∧
      l'.map Ran.unwatched = l ∧ t'.unwatched = t ∧ e'.unwatched = e ∧
      (∀ s, t'.session = some s → Point b s.socket s.tls e') ∧
      ∀ host port c config fuel k s f,
        Passed b.observed host port c config fuel (t'.vacate b.observed (attempted e')).2
          (.started k s) f → Begins b k s f) ∧
    (∀ k s f, Point b k s f → Conserved k.2 s f) ∧ ∀ k s f, Paths b k s f := by
  obtain ⟨l', t', e', hr, hl, rfl, rfl⟩ := h.observed
  have hs := (reachable_kept (hr.reachable fun _ _ ha => ha.1)).settled
  have ht := (vacate_tidy (b := b) hs (tidy_of_runs hr)).1
  refine ⟨⟨l', t', e', hr, hl, rfl, rfl, points_of_runs hr, ?_⟩, ?_, paths b⟩
  · exact fun _ _ _ _ _ _ _ _ hp => begins_of_passed ht hp
  · exact fun _ _ _ hp => conserved_of_point hb hp

/-- A send that is cut off behind its second octet and then fails: the octet that is left waits. -/
theorem ciphertext_conserved_cut :
    ∃ (l : List (Ran Script)) (t : Transport Bytes Unit) (e₀ e : Env Script),
      Runs (Script.backing .plain) Env.Quiet e₀ l t e ∧ e.world.wire = [1, 2] ∧
      ∃ l' t' e' s, Runs (Script.backing .plain).observed Env.Silent e₀.watched l' t' e' ∧
        t'.unwatched = t ∧ e'.unwatched = e ∧ t'.session = some s ∧ s.tls.outbox = [[3]] ∧
        wireOf s.socket.2 e'.uses ++ [3] = s.tls.core.2 := by
  let e₀ := Script.inEnv ⟨.cons (.ok 2) (.const (.error (.plain .brokenPipe))), .const (.ok []), []⟩
  have hb : (Script.backing .plain).sockets.Honest := by
    intro k b w n hn
    simp only [Script.backing, Script.sockets, Script.send] at hn
    split at hn
    · cases hn
    · cases hn
      exact List.length_take_le' _ _
  have hrun : (((Operation.connect "host" 443 .bareRoot (.ofMillis 1) (.ofMillis 1)).run
      (Script.backing .plain) 1 allocated e₀).bind fun o =>
        (Operation.send [1, 2, 3]).run (Script.backing .plain) 1 o.2.1 o.2.2).map
      (fun o => (o.2.1.session.map fun s => s.tls.outbox, o.2.2.world.wire)) =
        some (some [[3]], [1, 2]) := by
    decide +kernel
  obtain ⟨⟨a₂, t, e⟩, ho, hs⟩ := Option.map_eq_some_iff.mp hrun
  obtain ⟨⟨a₁, t₁, e₁⟩, hc, hd⟩ := Option.bind_eq_some_iff.mp ho
  obtain ⟨hout, hwire⟩ := Prod.mk.inj hs
  have hr : Runs (Script.backing .plain) Env.Quiet e₀ _ t e := .step (.step .allocated hc) hd
  obtain ⟨⟨l', t', e', hr', -, rfl, rfl, hl, -⟩, hp, -⟩ := ciphertext_conserved hb hr
  obtain ⟨s₁, hs₁, ho₁⟩ := Option.map_eq_some_iff.mp hout
  obtain ⟨s, hs, rfl⟩ := Option.map_eq_some_iff.mp hs₁
  have hq : s.tls.outbox = [[3]] := ho₁
  have hcons := hp _ _ _ (hl s hs)
  unfold Conserved at hcons
  rw [hq] at hcons
  exact ⟨_, _, e₀, _, hr, hwire, l', t', e', s, hr', rfl, rfl, hs, hq, hcons⟩

end SecureStream.Transport
