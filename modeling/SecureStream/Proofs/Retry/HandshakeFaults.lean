import SecureStream.Proofs.Retry.Delay
import SecureStream.Proofs.Session.HandshakeHistory

/-! # Faults that do not decide a handshake

A handshake over a delayed script gets to the same places as one over the script itself, with a
step more for each answer that was inserted (`Paired`, `exists_paired`, `exists_paired_of_delayed`).
So it comes to the same (`SameOutcome`), and the answers that were inserted and taken are counted as
retries. This needs a protocol that can wait and that makes no empty record (`FillsRecords`): of
such a record the stream takes nothing, which looks like a delay.

`drive_decided` is this, with what does decide a handshake. -/

namespace SecureStream.Handshake

variable {σ ε : Type}

/-- **Both handshakes get somewhere**, the second with what is left of the delays, and with a step
more that was not ready for each answer that was taken of them. -/
structure Paired (p : Protocol σ) (io : ByteStream ε) (clock : Clock ε) (view : ε → Script)
    (k : ℕ) (s₀ : Session σ) (e₀ e₀' : ε) (n m : ℕ) (l : List Mark) (s : Session σ) (e : ε)
    (l' : List Mark) (s' : Session σ) (e' : ε) : Prop where
  reached : Reached p io clock none s₀ e₀ l s e
  reached' : Reached p io clock none s₀ e₀' l' s' e'
  lagging : Lagging p n m s (view e) s' (view e')
  count : l'.count .notReady + (n + m) = l.count .notReady + k

/-- **The second outcome is the first**: the same failure, or all is done, with the same session and
the same octets on the wire, and of the `k` answers that delay those that are not left were
retries. -/
inductive SameOutcome (view : ε → Script) (k : ℕ) : Outcome σ ε → Outcome σ ε → Prop
  | failed {f s e s' e'} : SameOutcome view k (.error f, s, e) (.error f, s', e')
  | done {st st' s e e' n m} (hd : Script.Delays n m (view e) (view e'))
    (hr : st'.retries + (n + m) = st.retries + k) :
    SameOutcome view k (.ok st, s, e) (.ok st', s, e')

variable {p : Protocol σ} {io : ByteStream ε} {clock : Clock ε} {view : ε → Script} {k n m : ℕ}
  {s₀ s s' : Session σ} {e₀ e₀' e e' : ε} {l l' : List Mark}

/-! ### Steps of both -/

section
variable {s₁ s₁' : Session σ} {e₁ e₁' : ε} {f : StreamFault}

theorem Paired.progress (h : Paired p io clock view k s₀ e₀ e₀' n m l s e l' s' e')
    (hs : step p io s e = (.ok .progress, s₁, e₁))
    (hs' : step p io s' e' = (.ok .progress, s₁', e₁'))
    (hl : Lagging p n m s₁ (view e₁) s₁' (view e₁')) :
    Paired p io clock view k s₀ e₀ e₀' n m (.progress :: l) s₁ e₁ (.progress :: l') s₁' e₁' := by
  have hcount (l : List Mark) : (Mark.progress :: l).count .notReady = l.count .notReady :=
    List.count_cons_of_ne (by decide)
  exact ⟨h.reached.progress hs, h.reached'.progress hs', hl, by
    rw [hcount, hcount]
    exact h.count⟩

variable (hc : clock.Keeps fun e e' => view e' = view e)

include hc

theorem view_again (d : Duration) (e : ε) : view (clock.sleep d (look clock none e)) = view e :=
  hc.sleep d e

theorem Paired.again (h : Paired p io clock view k s₀ e₀ e₀' n m l s e l' s' e')
    (hs : step p io s e = (.error f, s₁, e₁)) (hs' : step p io s' e' = (.error f, s₁', e₁'))
    (hf : f.isRetryable) (hl : Lagging p n m s₁ (view e₁) s₁' (view e₁')) :
    Paired p io clock view k s₀ e₀ e₀' n m (.notReady :: l) s₁
      (clock.sleep (.ofMillis (pauseAfter (streak l))) (look clock none e₁)) (.notReady :: l') s₁'
      (clock.sleep (.ofMillis (pauseAfter (streak l'))) (look clock none e₁')) := by
  have hcount := h.count
  refine ⟨h.reached.again hs hf not_expired_none, h.reached'.again hs' hf not_expired_none, ?_, ?_⟩
  · rw [view_again hc, view_again hc]
    exact hl
  · rw [List.count_cons_self, List.count_cons_self]
    omega

theorem Paired.delay (h : Paired p io clock view k s₀ e₀ e₀' n m l s e l' s' e') {n₁ m₁ : ℕ}
    (hsum : n + m = n₁ + m₁ + 1) (hs' : step p io s' e' = (.error f, s₁', e₁'))
    (hf : f.isRetryable) (hl : Lagging p n₁ m₁ s (view e) s₁' (view e₁')) :
    Paired p io clock view k s₀ e₀ e₀' n₁ m₁ l s e (.notReady :: l') s₁'
      (clock.sleep (.ofMillis (pauseAfter (streak l'))) (look clock none e₁')) := by
  have hcount := h.count
  refine ⟨h.reached, h.reached'.again hs' hf not_expired_none, ?_, ?_⟩
  · rw [view_again hc]
    exact hl
  · rw [List.count_cons_self]
    omega

variable (hp : p.Patient) (hio : io.Projects view Script.stream)
  (hfull : ∀ l s e, Reached p io clock none s₀ e₀ l s e → [] ∉ s.outbox)

include hp hio hfull

/-- **The delays end**: behind some of them the next step is the same. -/
theorem Paired.exists_alike (h : Paired p io clock view k s₀ e₀ e₀' n m l s e l' s' e') :
    ∃ n m l' s' e', Paired p io clock view k s₀ e₀ e₀' n m l s e l' s' e' ∧
      Alike p io view n m s e s' e' := by
  -- on what is left of the delays: each step that is delayed takes one
  induction hN : n + m generalizing n m l' s' e' with
  | zero =>
    rcases step_delayed hp hio (hfull l s e h.reached) h.lagging with
      ⟨n₁, m₁, _, _, _, hsum, -⟩ | ha
    · omega
    · exact ⟨n, m, l', s', e', h, ha⟩
  | succ N ih =>
    rcases step_delayed hp hio (hfull l s e h.reached) h.lagging with
      ⟨n₁, m₁, f, s₁', e₁', hsum, hs', hf, hl⟩ | ha
    · exact ih (h.delay hc hsum hs' hf hl) (by omega)
    · exact ⟨n, m, l', s', e', h, ha⟩

/-- **Where a handshake gets, the delayed one gets.** By induction over the history. -/
theorem exists_paired (hd : Script.Delays n m (view e₀) (view e₀'))
    (h : Reached p io clock none s₀ e₀ l s e) :
    ∃ n₁ m₁ l' s' e', Paired p io clock view (n + m) s₀ e₀ e₀' n₁ m₁ l s e l' s' e' := by
  induction h with
  | start =>
    refine ⟨n, m, [], s₀, (clock.now e₀').2, .start, .start, ⟨.inl rfl, ?_⟩, rfl⟩
    rw [hc.now, hc.now]
    exact hd
  | progress h hs ih =>
    obtain ⟨_, _, _, _, _, ih⟩ := ih
    obtain ⟨_, _, _, _, _, hpair, ha⟩ := ih.exists_alike hc hp hio hfull
    obtain ⟨s₁', e₁', hs', hl⟩ := ha.of_step hs
    exact ⟨_, _, _, _, _, hpair.progress hs hs' (hl (by simp))⟩
  | again h hs hf _ ih =>
    obtain ⟨_, _, _, _, _, ih⟩ := ih
    obtain ⟨_, _, _, _, _, hpair, ha⟩ := ih.exists_alike hc hp hio hfull
    obtain ⟨s₁', e₁', hs', hl⟩ := ha.of_step hs
    exact ⟨_, _, _, _, _, hpair.again hc hs hs' hf (hl (by simpa using hf))⟩

/-- **The delayed handshake gets nowhere else.** By induction over its history. -/
theorem exists_paired_of_delayed (hd : Script.Delays n m (view e₀) (view e₀'))
    (h : Reached p io clock none s₀ e₀' l' s' e') :
    ∃ n₁ m₁ l s e, Paired p io clock view (n + m) s₀ e₀ e₀' n₁ m₁ l s e l' s' e' := by
  induction h with
  | start =>
    refine ⟨n, m, [], s₀, (clock.now e₀).2, .start, .start, ⟨.inl rfl, ?_⟩, rfl⟩
    rw [hc.now, hc.now]
    exact hd
  | progress h hs' ih =>
    obtain ⟨_, _, _, _, _, hpair⟩ := ih
    rcases step_delayed hp hio (hfull _ _ _ hpair.reached) hpair.lagging with
      ⟨_, _, _, _, _, _, hr, -⟩ | ha
    · rw [hs'] at hr
      cases hr
    · obtain ⟨s₁, e₁, hs, hl⟩ := ha.of_step' hs'
      exact ⟨_, _, _, _, _, hpair.progress hs hs' (hl (by simp))⟩
  | again h hs' hf _ ih =>
    obtain ⟨_, _, _, _, _, hpair⟩ := ih
    rcases step_delayed hp hio (hfull _ _ _ hpair.reached) hpair.lagging with
      ⟨_, _, _, _, _, hsum, hr, _, hl⟩ | ha
    · rw [hs'] at hr
      cases hr
      exact ⟨_, _, _, _, _, hpair.delay hc hsum hs' hf hl⟩
    · obtain ⟨s₁, e₁, hs, hl⟩ := ha.of_step' hs'
      exact ⟨_, _, _, _, _, hpair.again hc hs hs' hf (hl (by simpa using hf))⟩

end

/-! ### Outcomes of both -/

theorem of_step_done {s₁ : Session σ} {e₁ : ε} (h : step p io s e = (.ok .done, s₁, e₁)) :
    s₁ = s ∧ e₁ = e ∧ s.outbox = [] ∧ p.isHandshaking s.core = false := by
  cases step_eq_iff.mp h with
  | done hq hh => exact ⟨rfl, rfl, hq, hh⟩

theorem Lagging.eq_of_done {w w' : Script} (h : Lagging p n m s w s' w')
    (hh : p.isHandshaking s.core = false) : s' = s := by
  refine h.session.resolve_right fun hw => ?_
  rw [hw.2.1] at hh
  cases hh

section
variable {o o' : Outcome σ ε} (hc : clock.Keeps fun e e' => view e' = view e)

include hc

theorem Paired.sameOutcome_done (h : Paired p io clock view k s₀ e₀ e₀' n m l s e l' s' e')
    {s₁ s₁' : Session σ} {e₁ e₁' : ε} (hs : step p io s e = (.ok .done, s₁, e₁))
    (hl : Lagging p n m s₁ (view e₁) s₁' (view e₁')) (elapsed elapsed' : ℕ) :
    SameOutcome view k
      (.ok ⟨l.length + 1, l.count .notReady, elapsed⟩, s₁, (clock.now e₁).2)
      (.ok ⟨l'.length + 1, l'.count .notReady, elapsed'⟩, s₁', (clock.now e₁').2) := by
  obtain ⟨rfl, rfl, -, hh⟩ := of_step_done hs
  obtain rfl := hl.eq_of_done hh
  refine .done ?_ h.count
  rw [hc.now, hc.now]
  exact hl.script

theorem Paired.ends (h : Paired p io clock view k s₀ e₀ e₀' n m l s e l' s' e')
    (ha : Alike p io view n m s e s' e') (he : Ends p io clock none (clock.now e₀).1 l s e o) :
    ∃ o', Ends p io clock none (clock.now e₀').1 l' s' e' o' ∧ SameOutcome view k o o' := by
  cases he with
  | done hs =>
    obtain ⟨s₁', e₁', hs', hl⟩ := ha.of_step hs
    exact ⟨_, .done hs', h.sameOutcome_done hc hs (hl (by simp)) _ _⟩
  | failed hs hf =>
    obtain ⟨s₁', e₁', hs', -⟩ := ha.of_step hs
    exact ⟨_, .failed hs' hf, .failed⟩
  | expired hs hf hb => exact absurd hb not_expired_none

theorem Paired.ends_of_delayed (h : Paired p io clock view k s₀ e₀ e₀' n m l s e l' s' e')
    (ha : Alike p io view n m s e s' e')
    (he : Ends p io clock none (clock.now e₀').1 l' s' e' o') :
    ∃ o, Ends p io clock none (clock.now e₀).1 l s e o ∧ SameOutcome view k o o' := by
  cases he with
  | done hs' =>
    obtain ⟨s₁, e₁, hs, hl⟩ := ha.of_step' hs'
    exact ⟨_, .done hs, h.sameOutcome_done hc hs (hl (by simp)) _ _⟩
  | failed hs' hf =>
    obtain ⟨s₁, e₁, hs, -⟩ := ha.of_step' hs'
    exact ⟨_, .failed hs hf, .failed⟩
  | expired hs' hf hb => exact absurd hb not_expired_none

variable (hp : p.Patient) (hio : io.Projects view Script.stream)
  (hfull : ∀ l s e, Reached p io clock none s₀ e₀ l s e → [] ∉ s.outbox)

include hp hio hfull

/-- **The delayed handshake comes to the same.** -/
theorem drive_delayed (hd : Script.Delays n m (view e₀) (view e₀')) {fuel : ℕ}
    (h : drive p io clock none fuel s₀ e₀ = some o) :
    ∃ fuel' o', drive p io clock none fuel' s₀ e₀' = some o' ∧
      SameOutcome view (n + m) o o' := by
  obtain ⟨l, s, e, hr, -, he⟩ := drive_eq_some_iff_reached.mp h
  obtain ⟨_, _, _, _, _, hpair⟩ := exists_paired hc hp hio hfull hd hr
  obtain ⟨_, _, l', s', e', hpair, ha⟩ := hpair.exists_alike hc hp hio hfull
  obtain ⟨o', he', hsame⟩ := hpair.ends hc ha he
  exact ⟨l'.length + 1, o', drive_of_ends hpair.reached' he' (Nat.lt_succ_self _), hsame⟩

/-- **It does not come to anything else.** -/
theorem drive_of_delayed (hd : Script.Delays n m (view e₀) (view e₀')) {fuel : ℕ}
    (h : drive p io clock none fuel s₀ e₀' = some o') :
    ∃ fuel' o, drive p io clock none fuel' s₀ e₀ = some o ∧ SameOutcome view (n + m) o o' := by
  obtain ⟨l', s', e', hr, -, he⟩ := drive_eq_some_iff_reached.mp h
  obtain ⟨n₁, m₁, l, s, e, hpair⟩ := exists_paired_of_delayed hc hp hio hfull hd hr
  rcases step_delayed hp hio (hfull l s e hpair.reached) hpair.lagging with
    ⟨_, _, f, _, _, _, hs', hf, -⟩ | ha
  · -- a step that is delayed ends nothing
    cases he with
    | done hs => rw [hs] at hs'; cases hs'
    | failed hs hn => rw [hs] at hs'; cases hs'; exact absurd hf hn
    | expired hs _ hb => exact absurd hb not_expired_none
  · obtain ⟨o, ho, hsame⟩ := hpair.ends_of_delayed hc ha he
    exact ⟨l.length + 1, o, drive_of_ends hpair.reached ho (Nat.lt_succ_self _), hsame⟩

end

/-! ### Records -/

theorem not_mem_consume {q : List Bytes} (h : [] ∉ q) (n : ℕ) : [] ∉ Session.consume n q := by
  induction q generalizing n with
  | nil => exact h
  | cons d rest ih =>
    rw [List.mem_cons, not_or] at h
    rw [Session.consume]
    split
    · next hn =>
      rw [List.mem_cons, not_or, eq_comm, List.drop_eq_nil_iff]
      exact ⟨by omega, h.2⟩
    · exact ih h.2 _

/-- **A protocol that makes no empty record** in good states. -/
structure FillsRecords (p : Protocol σ) (Good : σ → Prop) : Prop where
  room : ∀ c, Good c → Good (p.room c).2
  feed : ∀ c b, Good c → Good (p.feed c b)
  process : ∀ c, Good c → Good (p.process c).core ∧ [] ∉ (p.process c).records

/-- The protocol is in a good state, and no record that waits is empty. -/
structure Full (Good : σ → Prop) (s : Session σ) : Prop where
  core : Good s.core
  outbox : [] ∉ s.outbox

section
variable {Good : σ → Prop} {s₁ : Session σ} {e₁ : ε}

theorem Full.writeTls (h : Full Good s) (io : ByteStream ε) (e : ε) :
    Full Good (s.writeTls io e).2.1 := by
  unfold Session.writeTls
  split
  · exact h
  · split
    · exact h
    · split
      · exact ⟨h.core, not_mem_consume h.outbox _⟩
      · exact h

theorem Full.of_readTls (h : Full Good s) (hp : FillsRecords p Good) {r : Except IoError ℕ}
    (hr : s.readTls p io e = (r, s₁, e₁)) : Full Good s₁ := by
  have hroom := hp.room s.core h.core
  obtain rfl : s₁ = (s.readTls p io e).2.1 := by rw [hr]
  unfold Session.readTls
  split
  · exact h
  · split
    · next hc =>
      rw [hc] at hroom
      exact ⟨hroom, h.outbox⟩
    · next hc =>
      rw [hc] at hroom
      split
      · exact ⟨hroom, h.outbox⟩
      · exact ⟨hp.feed _ _ hroom, h.outbox⟩

theorem Full.of_process (h : Full Good s) (hp : FillsRecords p Good) {r : Except TlsError Unit}
    (hr : s.process p = (r, s₁)) : Full Good s₁ := by
  obtain ⟨hcore, hrecords⟩ := hp.process s.core h.core
  have hout : [] ∉ s.outbox ++ (p.process s.core).records := by
    rw [List.mem_append, not_or]
    exact ⟨h.outbox, hrecords⟩
  obtain rfl : s₁ = (s.process p).2 := by rw [hr]
  unfold Session.process
  split
  · exact h
  · dsimp only
    split <;> exact ⟨hcore, hout⟩

theorem Full.of_step (h : Full Good s) (hp : FillsRecords p Good) {r : Except StreamFault Step}
    (hs : step p io s e = (r, s₁, e₁)) : Full Good s₁ := by
  have hwrite := h.writeTls io e
  have hstep := stepOn_step p io s e
  obtain rfl : s₁ = (step p io s e).2.1 := by rw [hs]
  clear hs
  generalize step p io s e = o at hstep ⊢
  cases hstep with
  | writes hw => rwa [hw] at hwrite
  | full _ hw => rwa [hw] at hwrite
  | writeFails hw => rwa [hw] at hwrite
  | done _ _ => exact h
  | ends _ _ hr => exact h.of_readTls hp hr
  | readFails _ _ hr => exact h.of_readTls hp hr
  | works _ _ hr hw => exact (h.of_readTls hp hr).of_process hp hw
  | refuses _ _ hr hw => exact ((h.of_readTls hp hr).of_process hp hw).writeTls io _

/-- **Where a handshake gets, no record that waits is empty.** -/
theorem Full.of_reached {budget : Option Duration} (h₀ : Full Good s₀) (hp : FillsRecords p Good)
    (h : Reached p io clock budget s₀ e₀ l s e) : Full Good s := by
  induction h with
  | start => exact h₀
  | progress _ hs ih => exact ih.of_step hp hs
  | again _ hs _ _ ih => exact ih.of_step hp hs

end

/-! ### What decides -/

theorem step_of_pending (hq : s.outbox ≠ []) (read : ℕ → ε → Except IoError Bytes × ε) :
    step p { io with read } s e = step p io s e := by
  have hw : s.wantsWrite = true := by simpa [Session.wantsWrite] using hq
  rw [step, step, if_pos hw, if_pos hw]
  rfl

/-- **Where the protocol fails**: what was read is not sound. -/
structure Refusal (p : Protocol σ) (io : ByteStream ε) (s : Session σ) (e : ε) (x : TlsError) :
    Prop where
  outbox : s.outbox = []
  handshaking : p.isHandshaking s.core = true
  refuses : ∃ n s₁ e₁ s₂, s.readTls p io e = (.ok (n + 1), s₁, e₁) ∧
    s₁.process p = (.error x, s₂)

theorem ofIoError_ne_tls (x : IoError) (d : Direction) (y : TlsError) :
    StreamFault.ofIoError x d ≠ .tls y := by
  unfold StreamFault.ofIoError
  cases SocketSignal.ofKind x.kind d with
  | recvFailed => by_cases hk : x.kind = .unexpectedEof <;> simp [hk]
  | _ => simp

/-- **A step fails for the protocol exactly where it refuses**, whatever the alert comes to. -/
theorem step_tls_iff {x : TlsError} :
    (step p io s e).1 = .error (.tls x) ↔ Refusal p io s e x := by
  constructor
  · intro h
    have hstep := stepOn_step p io s e
    generalize step p io s e = o at hstep h
    cases hstep with
    | writes _ => cases h
    | full _ _ => cases h
    | writeFails _ => exact absurd (Except.error.inj h) (ofIoError_ne_tls _ _ _)
    | done _ _ => cases h
    | ends _ _ _ => cases h
    | readFails _ _ _ => exact absurd (Except.error.inj h) (ofIoError_ne_tls _ _ _)
    | works _ _ _ _ => cases h
    | refuses hq hh hr hp =>
      cases h
      exact ⟨hq, hh, _, _, _, _, hr, hp⟩
  · rintro ⟨hq, hh, n, s₁, e₁, s₂, hr, hp⟩
    rw [step_of_stepOn (.refuses hq hh hr hp)]

theorem drive_tls_iff {budget : Option Duration} {x : TlsError} :
    (∃ fuel s e, drive p io clock budget fuel s₀ e₀ = some (.error (.tls x), s, e)) ↔
      ∃ l s e, Reached p io clock budget s₀ e₀ l s e ∧ Refusal p io s e x := by
  constructor
  · rintro ⟨fuel, s', e', h⟩
    obtain ⟨l, s, e, hr, -, he⟩ := drive_eq_some_iff_reached.mp h
    cases he with
    | failed hs hf => exact ⟨l, s, e, hr, step_tls_iff.mp (by rw [hs])⟩
  · rintro ⟨l, s, e, hr, hx⟩
    rcases hs : step p io s e with ⟨r, s', e'⟩
    obtain rfl : r = .error (.tls x) := by
      have hfst := step_tls_iff.mpr hx
      rwa [hs] at hfst
    refine ⟨l.length + 1, s', e', drive_of_ends hr (.failed hs ?_) (Nat.lt_succ_self _)⟩
    simp [StreamFault.isRetryable, StreamFault.disposition]

/-- **What decides a handshake.** It goes well only if nothing is left to agree on and no record
waits. It does not read while records wait. A read of nothing ends it, and so does a failure of the
protocol, whatever the alert comes to. Over a script, without a budget, answers that ask for another
try and sends that take nothing decide nothing: however many there are and wherever they are
inserted, the handshake comes to the same, and each that is taken is one more retry. -/
theorem drive_decided (p : Protocol σ) (io : ByteStream ε) (clock : Clock ε)
    (budget : Option Duration) (s₀ : Session σ) (e₀ : ε) :
    (∀ fuel st s e, drive p io clock budget fuel s₀ e₀ = some (.ok st, s, e) →
      s.outbox = [] ∧ p.isHandshaking s.core = false) ∧
    (∀ s e read, s.outbox ≠ [] → step p { io with read } s e = step p io s e) ∧
    (∀ l s e s' e', Reached p io clock budget s₀ e₀ l s e → s.outbox = [] →
      p.isHandshaking s.core = true → s.readTls p io e = (.ok 0, s', e') →
      ∀ fuel, l.length < fuel →
        drive p io clock budget fuel s₀ e₀ = some (.error .unexpectedEof, s', e')) ∧
    (∀ x, (∃ fuel s e, drive p io clock budget fuel s₀ e₀ = some (.error (.tls x), s, e)) ↔
      ∃ l s e, Reached p io clock budget s₀ e₀ l s e ∧ Refusal p io s e x) ∧
    (∀ s e x write, Refusal p io s e x → (step p { io with write } s e).1 = .error (.tls x)) ∧
    ∀ (view : ε → Script) (e₀' : ε) (n m : ℕ), p.Patient → io.Projects view Script.stream →
      clock.Keeps (fun e e' => view e' = view e) →
      (∀ l s e, Reached p io clock none s₀ e₀ l s e → [] ∉ s.outbox) →
      Script.Delays n m (view e₀) (view e₀') →
      (∀ fuel o, drive p io clock none fuel s₀ e₀ = some o →
        ∃ fuel' o', drive p io clock none fuel' s₀ e₀' = some o' ∧
          SameOutcome view (n + m) o o') ∧
      ∀ fuel' o', drive p io clock none fuel' s₀ e₀' = some o' →
        ∃ fuel o, drive p io clock none fuel s₀ e₀ = some o ∧ SameOutcome view (n + m) o o' := by
  refine ⟨?_, fun s e read hq => step_of_pending hq read, ?_, fun x => drive_tls_iff, ?_, ?_⟩
  · intro fuel st s e h
    obtain ⟨l, s₁, e₁, -, -, he⟩ := drive_eq_some_iff_reached.mp h
    cases he with
    | done hs =>
      obtain ⟨rfl, -, hq, hh⟩ := of_step_done hs
      exact ⟨hq, hh⟩
  · intro l s e s' e' hr hq hh hread fuel hlt
    exact drive_of_ends hr (.failed (step_of_stepOn (.ends hq hh hread)) (by decide)) hlt
  · rintro s e x write ⟨hq, hh, hrefuses⟩
    exact step_tls_iff.mpr ⟨hq, hh, hrefuses⟩
  · intro view e₀' n m hp hio hc hfull hd
    exact ⟨fun fuel o h => drive_delayed hc hp hio hfull hd h,
      fun fuel o h => drive_of_delayed hc hp hio hfull hd h⟩

/-- A hello of two octets is sent and one octet is waited for. A send that takes nothing, one that
is not ready and a receive that times out make three more retries. -/
theorem drive_decided_hello :
    ∃ w w' : Script, Script.Delays 2 1 w w' ∧ ∃ o o' fuel,
      drive awaiting Script.stream ⟨fun w => (0, w), fun _ w => w⟩ none 4 (.fresh 1 [[1, 2]]) w =
        some o ∧
      drive awaiting Script.stream ⟨fun w => (0, w), fun _ w => w⟩ none fuel (.fresh 1 [[1, 2]])
        w' = some o' ∧ SameOutcome id 3 o o' := by
  let clock : Clock Script := ⟨fun w => (0, w), fun _ w => w⟩
  let w : Script := ⟨.const (.ok 1), .const (.ok [0]), []⟩
  let w' : Script := ⟨.cons (.ok 0) (.cons (.ok 1) (.cons (.error (.plain .wouldBlock))
    (.const (.ok 1)))), .cons (.error (.plain .timedOut)) (.const (.ok [0])), []⟩
  have hconst : Stream'.const (.ok 1 : Except IoError ℕ) = .cons (.ok 1) (.const (.ok 1)) :=
    Stream'.const_eq _
  have hd : Script.Delays 2 1 w w' := by
    refine ⟨.waits rfl ?_, .fault rfl .none, rfl⟩
    show Delayed 1 (Stream'.const _) _
    rw [hconst]
    exact .keep _ (.waits rfl (hconst ▸ .none))
  have hfill : FillsRecords awaiting fun _ => True :=
    ⟨fun _ h => h, fun _ _ h => h, fun _ h => ⟨h, List.not_mem_nil⟩⟩
  have hfirst : Full (fun _ => True) (.fresh 1 [[1, 2]]) := ⟨trivial, by decide⟩
  have hfull (l s e) (h : Reached awaiting Script.stream clock none (.fresh 1 [[1, 2]]) w l s e) :
      [] ∉ s.outbox := (hfirst.of_reached hfill h).outbox
  obtain ⟨-, -, -, -, -, hdelayed⟩ :=
    drive_decided awaiting Script.stream clock none (.fresh 1 [[1, 2]]) w
  obtain ⟨hsame, -⟩ := hdelayed id w' 2 1 ⟨fun _ => rfl, fun _ => rfl⟩ (.refl _)
    ⟨fun _ => rfl, fun _ _ => rfl⟩ hfull hd
  obtain ⟨fuel, o', ho', hsame⟩ := hsame 4 _ rfl
  exact ⟨w, w', hd, _, o', fuel, rfl, ho', hsame⟩

end SecureStream.Handshake
