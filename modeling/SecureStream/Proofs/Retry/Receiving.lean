import SecureStream.Proofs.Retry.Trailing

/-! # Receiving behind another session

A receive of the session behind meets the faults that were inserted into the script of its receives:
each of them ends the call with nothing, and the caller receives again (`skip_faults`). Then both
sessions read the same octets, so that in the end the same plaintext is delivered
(`receives_trailing`, `recv_trailing`). -/

namespace SecureStream

variable {σ : Type} {p : Protocol σ}

/-! ### Reading over a script -/

namespace Session

variable {s : Session σ} {e : Env Script} {core : σ} {limit : ℕ}

/-- The session after octets were read. -/
def fed (p : Protocol σ) (s : Session σ) (core : σ) (b : Bytes) : Session σ :=
  { s with core := p.feed core b, ended := s.ended || b.isEmpty }

theorem stream_read (limit : ℕ) (e : Env Script) :
    ∃ j, (Env.stream Script.sockets ()).read limit e =
      ((e.world.recv limit).1.mapError (·.normalised .recv),
        { e with world := (e.world.recv limit).2, journal := j }) :=
  ⟨_, rfl⟩

theorem readTls_of_full (hc : s.closed = false) (hroom : p.room s.core = (none, core)) :
    s.readTls p (Env.stream Script.sockets ()) e =
      (.error (.described .invalidData "message buffer full"), { s with core }, e) := by
  unfold readTls
  rw [if_neg (by simp [hc]), hroom]

theorem readTls_of_head_error {x : IoError} (hc : s.closed = false)
    (hroom : p.room s.core = (some limit, core)) (hx : e.world.recvs.head = .error x) :
    ∃ e', s.readTls p (Env.stream Script.sockets ()) e =
        (.error (x.normalised .recv), { s with core }, e') ∧
      e'.world = { e.world with recvs := e.world.recvs.tail } := by
  have hs : e.world.recv limit = (.error x, { e.world with recvs := e.world.recvs.tail }) := by
    unfold Script.recv
    rw [hx]
  obtain ⟨j, hj⟩ := stream_read limit e
  rw [hs] at hj
  refine ⟨{ e with world := { e.world with recvs := e.world.recvs.tail }, journal := j }, ?_, rfl⟩
  unfold readTls
  rw [if_neg (by simp [hc]), hroom]
  simp only [hj]
  rfl

theorem readTls_of_head_ok {b : Bytes} (hc : s.closed = false)
    (hroom : p.room s.core = (some limit, core)) (hb : e.world.recvs.head = .ok b) :
    ∃ e', s.readTls p (Env.stream Script.sockets ()) e =
        (.ok (b.take limit).length, s.fed p core (b.take limit), e') ∧
      e'.world = { e.world with recvs := Script.afterRecv limit b e.world.recvs.tail } := by
  have hs : e.world.recv limit = (.ok (b.take limit),
      { e.world with recvs := Script.afterRecv limit b e.world.recvs.tail }) := by
    unfold Script.recv
    rw [hb]
  obtain ⟨j, hj⟩ := stream_read limit e
  rw [hs] at hj
  refine ⟨{ e with
    world := { e.world with recvs := Script.afterRecv limit b e.world.recvs.tail }
    journal := j }, ?_, rfl⟩
  unfold readTls
  rw [if_neg (by simp [hc]), hroom]
  simp only [hj]
  rfl

theorem readTls_eq_error {x : IoError} {s₁ : Session σ} {e₁ : Env Script} (hc : s.closed = false)
    (h : s.readTls p (Env.stream Script.sockets ()) e = (.error x, s₁, e₁))
    (hx : (StreamFault.ofIoError x .recv).isRetryable) :
    ∃ limit y, (p.room s.core).1 = some limit ∧ e.world.recvs.head = .error y ∧
      y.kind.isNotReady ∧ s₁ = { s with core := (p.room s.core).2 } ∧
      e₁.world = { e.world with recvs := e.world.recvs.tail } := by
  rcases hroom : p.room s.core with ⟨_ | limit, core⟩
  · rw [readTls_of_full hc hroom] at h
    simp only [Prod.mk.injEq, Except.error.injEq] at h
    obtain ⟨rfl, -, -⟩ := h
    rw [isRetryable_ofIoError] at hx
    cases hx
  · cases hh : e.world.recvs.head with
    | ok b =>
      obtain ⟨e', he, -⟩ := readTls_of_head_ok hc hroom hh
      rw [he] at h
      cases h
    | error y =>
      obtain ⟨e', he, hworld⟩ := readTls_of_head_error hc hroom hh
      rw [he] at h
      simp only [Prod.mk.injEq, Except.error.injEq] at h
      obtain ⟨rfl, rfl, rfl⟩ := h
      rw [isRetryable_normalised] at hx
      exact ⟨limit, y, rfl, rfl, hx, rfl, hworld⟩

theorem readTls_eq_ok {n : ℕ} {s₁ : Session σ} {e₁ : Env Script} (hc : s.closed = false)
    (h : s.readTls p (Env.stream Script.sockets ()) e = (.ok n, s₁, e₁)) :
    ∃ limit b, (p.room s.core).1 = some limit ∧ e.world.recvs.head = .ok b ∧
      s₁ = s.fed p (p.room s.core).2 (b.take limit) ∧
      e₁.world = { e.world with recvs := Script.afterRecv limit b e.world.recvs.tail } := by
  rcases hroom : p.room s.core with ⟨_ | limit, core⟩
  · rw [readTls_of_full hc hroom] at h
    cases h
  · cases hh : e.world.recvs.head with
    | ok b =>
      obtain ⟨e', he, hworld⟩ := readTls_of_head_ok hc hroom hh
      rw [he] at h
      simp only [Prod.mk.injEq, Except.ok.injEq] at h
      obtain ⟨-, rfl, rfl⟩ := h
      exact ⟨limit, b, rfl, rfl, rfl, hworld⟩
    | error y =>
      obtain ⟨e', he, -⟩ := readTls_of_head_error hc hroom hh
      rw [he] at h
      cases h

/-- The session after sound records were worked on. -/
def worked (p : Protocol σ) (s : Session σ) : Session σ :=
  { s with
    core := (p.process s.core).core
    outbox := s.outbox ++ (p.process s.core).records
    inbox := s.inbox ++ (p.process s.core).plaintext
    closed := s.closed || (p.process s.core).closed }

theorem process_eq_ok_iff {s₁ : Session σ} :
    s.process p = (.ok (), s₁) ↔
      s.failure = none ∧ (p.process s.core).failure = none ∧ s₁ = s.worked p := by
  unfold process
  split
  · next x hf => simp [hf]
  · next hf =>
    dsimp only
    split
    · next x hp => simp [hp]
    · next hp =>
      constructor
      · intro h
        obtain rfl := (Prod.mk.inj h).2
        refine ⟨hf, hp, ?_⟩
        unfold worked
        rw [hp, hf]
      · rintro ⟨-, -, rfl⟩
        unfold worked
        rw [hp, hf]

end Session

namespace Trailing

variable {s s' : Session σ} {w w' : Script}

theorem idle (h : Trailing s' w' s w) (hs : Transport.Idle s) : Transport.Idle s' :=
  ⟨h.inbox.trans hs.inbox, h.closed.trans hs.closed, h.ended.trans hs.ended⟩

theorem receiving (h : Trailing s' w' s w) (core core' : σ) {recvs recvs' : Stream' _} {n : ℕ}
    (hi : Inserted n recvs recvs') :
    Trailing { s' with core := core' } { w' with recvs := recvs' } { s with core := core }
      { w with recvs := recvs } :=
  ⟨h.inbox, h.closed, h.ended, h.failure, ⟨n, hi⟩, h.channel, h.orderly, h.full, h.full'⟩

theorem delivering (h : Trailing s' w' s w) (k : ℕ) :
    Trailing { s' with inbox := s.inbox.drop k } w' { s with inbox := s.inbox.drop k } w :=
  ⟨rfl, h.closed, h.ended, h.failure, h.recvs, h.channel, h.orderly, h.full, h.full'⟩

theorem fed (h : Trailing s' w' s w) (core : σ) (b : Bytes) {recvs recvs' : Stream' _} {n : ℕ}
    (hi : Inserted n recvs recvs') :
    Trailing (s'.fed p core b) { w' with recvs := recvs' } (s.fed p core b)
      { w with recvs := recvs } := by
  refine ⟨h.inbox, h.closed, ?_, h.failure, ⟨n, hi⟩, h.channel, h.orderly, h.full, h.full'⟩
  unfold Session.fed
  rw [h.ended]

theorem worked (hp : p.Steady) (h : Trailing s' w' s w) (hc : s'.core = s.core) :
    Trailing (s'.worked p) w' (s.worked p) w := by
  have hrec := hp.process s.core
  unfold Session.worked
  rw [hc, h.inbox, h.closed]
  refine ⟨rfl, rfl, h.ended, h.failure, h.recvs, h.channel.add _, h.orderly, ?_, ?_⟩
  · rw [List.mem_append, not_or]
    exact ⟨h.full, hrec⟩
  · rw [List.mem_append, not_or]
    exact ⟨h.full', hrec⟩

end Trailing

/-! ### Calls -/

namespace Transport

open Channel

theorem recv_upon {k : ℕ} (hk : 0 < k) (b : Backing Script σ Unit) (fuel : ℕ) (s : Session σ)
    (e : Env Script) :
    (upon s).recv b k fuel e = (recvOn b () k fuel s e).map fun o => (o.1, upon o.2.1, o.2.2) := by
  unfold recv
  simp only [upon, live, if_neg (Nat.ne_of_gt hk)]

/-- The call that starts with `s₀` and `e₀` comes to what a look for plaintext in `s` comes to. -/
def ComesBy (p : Protocol σ) (k : ℕ) (s₀ : Session σ) (e₀ : Env Script) (s : Session σ)
    (e : Env Script) : Prop :=
  ∀ o, Receives (Script.backing p) () k s e o →
    (Turn.afterFlush (s₀.flush (Env.stream Script.sockets ()) e₀)).EndsAs (Script.backing p) () k o

theorem ComesBy.recv {k : ℕ} {s₀ s s₁ : Session σ} {e₀ e e₁ : Env Script}
    {r : Except TransportError Bytes} (h : ComesBy p k s₀ e₀ s e) (hk : 0 < k)
    (ht : turn (Script.backing p) () k s e = .done (r, s₁, e₁)) :
    ∃ fuel, (upon s₀).recv (Script.backing p) k fuel e₀ = some (r, upon s₁, e₁) := by
  obtain ⟨fuel, ho⟩ := recvOn_iff.mpr (h _ (.done ht))
  exact ⟨fuel, by rw [recv_upon hk, ho]; rfl⟩

theorem comesBy_of_flush {k : ℕ} {s₀ s : Session σ} {e₀ e : Env Script}
    {r : Except StreamFault Unit} (hf : s₀.flush (Env.stream Script.sockets ()) e₀ = (r, s, e))
    (hr : ∀ f, r = .error f → f.isRetryable) : ComesBy p k s₀ e₀ s e := by
  intro o ho
  rw [hf, afterFlush_eq_again_iff.mpr ⟨hr, rfl, rfl⟩]
  exact ho

theorem ComesBy.again {k : ℕ} {s₀ s s₁ : Session σ} {e₀ e e₁ : Env Script}
    (h : ComesBy p k s₀ e₀ s e) (ht : turn (Script.backing p) () k s e = .again s₁ e₁) :
    ComesBy p k s₀ e₀ s₁ e₁ :=
  fun _ ho => h _ (.again ht ho)

/-- The protocol of the session behind may have made room already. -/
def Roomed (p : Protocol σ) (s' s : Session σ) : Prop :=
  s'.core = s.core ∨ (s.inbox = [] ∧ s'.core = (p.room s.core).2)

theorem Roomed.room (hp : p.Steady) {s' s : Session σ} (h : Roomed p s' s) {limit : ℕ}
    (hroom : (p.room s.core).1 = some limit) :
    p.room s'.core = (some limit, (p.room s.core).2) := by
  rw [← hroom]
  rcases h with h | ⟨-, h⟩
  · rw [h]
  · rw [h, hp.room]

/-! ### Faults -/

/-- **The inserted faults are passed over**: each ends a call with nothing, and the next one comes
to the same place. Then the next answer is the same for both. -/
theorem skip_faults (hp : p.Steady) {k limit : ℕ} (hk : 0 < k) {s : Session σ} {w : Script}
    (hroom : (p.room s.core).1 = some limit) (hs : Idle s) (hc : (s.channel w).Calm) {n : ℕ}
    {s' s₀ : Session σ} {e' e₀ : Env Script} (h : Trailing s' e'.world s w) (hm : Roomed p s' s)
    (hi : Inserted n w.recvs e'.world.recvs) (hb : ComesBy p k s₀ e₀ s' e') :
    ∃ m s₁ e₁ s₂ e₂, Trailing s₁ e₁.world s w ∧ Idle s₁ ∧
      p.room s₁.core = (some limit, (p.room s.core).2) ∧
      e₁.world.recvs.head = w.recvs.head ∧ Inserted m w.recvs.tail e₁.world.recvs.tail ∧
      ComesBy p k s₂ e₂ s₁ e₁ ∧
      ∀ {next d t e}, Runs (Script.backing p) (.receive k next) (upon s₂) e₂ d t e →
        Runs (Script.backing p) (.receive k next) (upon s₀) e₀ d t e := by
  induction n generalizing s' s₀ e' e₀ with
  | zero =>
    rcases hi.head with ⟨hh, ht⟩ | ⟨m, _, hm, _⟩
    · exact ⟨0, s', e', s₀, e₀, h, h.idle hs, hm.room hp hroom, hh, ht, hb, fun hrun => hrun⟩
    · omega
  | succ n ih =>
    have hs' := h.idle hs
    have hroom' := hm.room hp hroom
    rcases hi.head with ⟨hh, ht⟩ | ⟨m, x, hmn, hh, hx, ht⟩
    · exact ⟨n + 1, s', e', s₀, e₀, h, hs', hroom', hh, ht, hb, fun hrun => hrun⟩
    obtain rfl : m = n := by omega
    obtain ⟨e₁, hread, hworld⟩ := Session.readTls_of_head_error hs'.closed hroom' hh
    have hx' : (StreamFault.ofIoError (x.normalised .recv) .recv).isRetryable := by
      rw [isRetryable_normalised]
      exact hx
    obtain ⟨fuel, hrecv⟩ := hb.recv hk (turn_of_waits hs' hread hx')
    -- the next call starts with a flush, which does not fail for good
    have ht₁ : Trailing { s' with core := (p.room s.core).2 } e₁.world s w := by
      rw [hworld]
      exact h.receiving s.core _ ht
    rcases hf : ({ s' with core := (p.room s.core).2 } : Session σ).flush
      (Env.stream Script.sockets ()) (e₁.count (.retries "recv") 1) with ⟨r, s₂, e₂⟩
    obtain ⟨hr, ht₂⟩ := ht₁.flush_behind (e := e₁.count (.retries "recv") 1) hc hf
    have hrecvs : e₂.world.recvs = e'.world.recvs.tail := by
      rw [(Session.flush_flushes ht₁.full' hf).2.1]
      show e₁.world.recvs = _
      rw [hworld]
    obtain ⟨m', s₃, e₃, s₄, e₄, h₃, hs₃, hroom₃, hh₃, hi₃, hb₃, hruns⟩ :=
      ih ht₂ (.inr ⟨hs.inbox, Session.core_of_flush hf⟩) (by rw [hrecvs]; exact ht)
        (comesBy_of_flush hf hr)
    exact ⟨m', s₃, e₃, s₄, e₄, h₃, hs₃, hroom₃, hh₃, hi₃, hb₃,
      fun hrun => .receive hk hrecv (hruns hrun)⟩

/-! ### What a turn of the session ahead comes to, from behind -/

section
variable {k : ℕ} {s s' s₀ : Session σ} {e e' e₀ : Env Script}

theorem delivers_trailing (hk : 0 < k) (h : Trailing s' e'.world s e.world) (hm : Roomed p s' s)
    (hb : ComesBy p k s₀ e₀ s' e') (hi : s.inbox.take k ≠ []) :
    ∃ s₁' e₁', Trailing s₁' e₁'.world { s with inbox := s.inbox.drop k } e.world ∧
      s₁'.core = s.core ∧ ∃ fuel, (upon s₀).recv (Script.backing p) k fuel e₀ =
        some (.ok (s.inbox.take k), upon s₁', e₁') := by
  have hcore : s'.core = s.core := by
    rcases hm with hm | ⟨hi', -⟩
    · exact hm
    · rw [hi', List.take_nil] at hi
      exact absurd rfl hi
  have ht : turn (Script.backing p) () k s' e' =
      .done (.ok (s.inbox.take k), { s' with inbox := s.inbox.drop k },
        e'.count .bytesReceived (s.inbox.take k).length) := by
    rw [← h.inbox] at hi ⊢
    exact turn_of_delivers hi
  exact ⟨{ s' with inbox := s.inbox.drop k }, e'.count .bytesReceived (s.inbox.take k).length,
    h.delivering k, hcore, hb.recv hk ht⟩

/-- The socket is not ready: neither is it from behind, once the inserted faults are passed over. -/
theorem waits_trailing (hp : p.Steady) (hk : 0 < k) {x : IoError} {s₁ : Session σ} {e₁ : Env Script}
    (hs : Idle s) (hread : s.readTls p (Env.stream Script.sockets ()) e = (.error x, s₁, e₁))
    (hx : (StreamFault.ofIoError x .recv).isRetryable) (h : Trailing s' e'.world s e.world)
    (hm : Roomed p s' s) (hc : (s.channel e.world).Calm) (hb : ComesBy p k s₀ e₀ s' e') :
    ∃ s₁' e₁', Trailing s₁' e₁'.world s₁ e₁.world ∧ s₁'.core = s₁.core ∧
      ∀ {next d t₂ e₂},
        Runs (Script.backing p) (.receive k next) (upon s₁') e₁' d t₂ e₂ →
        Runs (Script.backing p) (.receive k next) (upon s₀) e₀ d t₂ e₂ := by
  obtain ⟨limit, y, hroom, hy, hn, rfl, hworld⟩ := Session.readTls_eq_error hs.closed hread hx
  obtain ⟨n, hi⟩ := h.recvs
  obtain ⟨m, s₃, e₃, s₄, e₄, h₃, hs₃, hroom₃, hh₃, hi₃, hb₃, hruns⟩ :=
    skip_faults hp hk hroom hs hc h hm hi hb
  obtain ⟨e₅, hread₃, hworld₃⟩ := Session.readTls_of_head_error hs₃.closed hroom₃ (hh₃.trans hy)
  have hy' : (StreamFault.ofIoError (y.normalised .recv) .recv).isRetryable := by
    rw [isRetryable_normalised]
    exact hn
  obtain ⟨fuel, hrecv⟩ := hb₃.recv hk (turn_of_waits hs₃ hread₃ hy')
  refine ⟨{ s₃ with core := (p.room s.core).2 }, e₅.count (.retries "recv") 1, ?_, rfl,
    fun hrun => hruns (.receive hk hrecv hrun)⟩
  show Trailing _ e₅.world _ e₁.world
  rw [hworld, hworld₃]
  exact h₃.receiving _ _ hi₃

/-- Records are worked on: the same ones are from behind, and the call goes on. -/
theorem works_trailing (hp : p.Steady) (hk : 0 < k) {n : ℕ} {s₁ s₂ s₃ : Session σ}
    {e₁ e₂ : Env Script} (hs : Idle s)
    (hread : s.readTls p (Env.stream Script.sockets ()) e = (.ok n, s₁, e₁))
    (hw : s₁.process p = (.ok (), s₂))
    (hf : Turn.afterFlush (s₂.flush (Env.stream Script.sockets ()) e₁) = .again s₃ e₂)
    (h : Trailing s' e'.world s e.world) (hm : Roomed p s' s) (hc : (s.channel e.world).Calm)
    (hb : ComesBy p k s₀ e₀ s' e') :
    ∃ s₃' e₂' s₄ e₄, Trailing s₃' e₂'.world s₃ e₂.world ∧ s₃'.core = s₃.core ∧
      (s₃.channel e₂.world).Calm ∧ ComesBy p k s₄ e₄ s₃' e₂' ∧
      ∀ {next d t e}, Runs (Script.backing p) (.receive k next) (upon s₄) e₄ d t e →
        Runs (Script.backing p) (.receive k next) (upon s₀) e₀ d t e := by
  obtain ⟨limit, bytes, hroom, hbytes, rfl, hworld⟩ := Session.readTls_eq_ok hs.closed hread
  obtain ⟨hfail, hsound, rfl⟩ := Session.process_eq_ok_iff.mp hw
  obtain ⟨n, hi⟩ := h.recvs
  obtain ⟨m, s₅, e₅, s₄, e₄, h₅, hs₅, hroom₅, hh₅, hi₅, hb₅, hruns⟩ :=
    skip_faults hp hk hroom hs hc h hm hi hb
  obtain ⟨e₆, hread₅, hworld₅⟩ := Session.readTls_of_head_ok hs₅.closed hroom₅ (hh₅.trans hbytes)
  have hfed := h₅.fed (p := p) (p.room s.core).2 (bytes.take limit)
    (Script.inserted_afterRecv limit bytes hi₅)
  have hworked := hfed.worked hp rfl
  rw [← hworld, ← hworld₅] at hworked
  have hw' : (s₅.fed p (p.room s.core).2 (bytes.take limit)).process p =
      (.ok (), (s₅.fed p (p.room s.core).2 (bytes.take limit)).worked p) :=
    Session.process_eq_ok_iff.mpr ⟨h₅.failure.trans hfail, hsound, rfl⟩
  rcases hfl : ((s.fed p (p.room s.core).2 (bytes.take limit)).worked p).flush
    (Env.stream Script.sockets ()) e₁ with ⟨r, s₆, e₇⟩
  rw [hfl] at hf
  obtain ⟨hr, rfl, rfl⟩ := afterFlush_eq_again_iff.mp hf
  obtain ⟨hahead, hcalm⟩ := hworked.flush_ahead hfl hr
  rcases hfl' : ((s₅.fed p (p.room s.core).2 (bytes.take limit)).worked p).flush
    (Env.stream Script.sockets ()) e₆ with ⟨r', s₇, e₈⟩
  obtain ⟨hr', hbehind⟩ := hahead.flush_behind hcalm hfl'
  have ht : turn (Script.backing p) () k s₅ e₅ = .again s₇ e₈ := by
    rw [turn_of_works hs₅ hread₅ hw']
    show Turn.afterFlush (Session.flush (Env.stream Script.sockets ()) _ e₆) = _
    rw [hfl']
    exact afterFlush_eq_again_iff.mpr ⟨hr', rfl, rfl⟩
  have hcore : s₇.core = s₆.core :=
    (Session.core_of_flush hfl').trans (Session.core_of_flush hfl).symm
  exact ⟨s₇, e₈, s₄, e₄, hbehind, hcore, hcalm, hb₅.again ht, hruns⟩

end

/-- **From a look for plaintext to the end of the call.** From behind the same plaintext comes, in
some calls of which all but the last may come to nothing. By induction over the turns. -/
theorem receives_trailing (hp : p.Steady) {k : ℕ} (hk : 0 < k) {s : Session σ} {e : Env Script}
    {o : Received Script σ} (ho : Receives (Script.backing p) () k s e o) {c : Bytes}
    {s₁ : Session σ} {e₁ : Env Script} (hok : o = (.ok c, s₁, e₁)) {s' s₀ : Session σ}
    {e' e₀ : Env Script} (h : Trailing s' e'.world s e.world) (hm : Roomed p s' s)
    (hc : (s.channel e.world).Calm) (hb : ComesBy p k s₀ e₀ s' e') :
    ∃ s₁' e₁', Trailing s₁' e₁'.world s₁ e₁.world ∧ s₁'.core = s₁.core ∧
      ∀ {next d t₂ e₂},
        Runs (Script.backing p) (.receive (k - c.length) fun r => next (c ++ r)) (upon s₁') e₁' d
          t₂ e₂ →
        Runs (Script.backing p) (.receive k next) (upon s₀) e₀ (c ++ d) t₂ e₂ := by
  induction ho generalizing s' s₀ e' e₀ with
  | @done s e o ht =>
    have hturn := turn_spec (Script.backing p) () k s e
    rw [ht] at hturn
    cases hturn with
    | closed _ => cases hok
    | ended _ _ _ => cases hok
    | fails _ _ _ => cases hok
    | refuses _ _ _ => cases hok
    | delivers hi =>
      simp only [Prod.mk.injEq, Except.ok.injEq] at hok
      obtain ⟨rfl, rfl, rfl⟩ := hok
      obtain ⟨s₁', e₁', h₁, hc₁, fuel, hrecv⟩ := delivers_trailing hk h hm hb hi
      exact ⟨s₁', e₁', h₁, hc₁, fun hrun => .receive hk hrecv hrun⟩
    | waits hs hread hx =>
      simp only [Prod.mk.injEq, Except.ok.injEq] at hok
      obtain ⟨rfl, rfl, rfl⟩ := hok
      have hwaits := waits_trailing hp hk hs hread hx h hm hc hb
      exact hwaits
    | works _ _ _ hf =>
      obtain ⟨f, hf⟩ := error_of_afterFlush hf
      rw [hok] at hf
      cases hf
  | @again s e s₂ e₂ o ht _ ih =>
    have hturn := turn_spec (Script.backing p) () k s e
    rw [ht] at hturn
    cases hturn with
    | works hs hread hw hf =>
      obtain ⟨s₂', e₂', s₄, e₄, h₂, hc₂, hcalm, hb₂, hruns⟩ :=
        works_trailing hp hk hs hread hw hf h hm hc hb
      obtain ⟨s₁', e₁', h₁, hc₁, hruns₁⟩ := ih hok h₂ (.inl hc₂) hcalm hb₂
      exact ⟨s₁', e₁', h₁, hc₁, fun hrun => hruns (hruns₁ hrun)⟩

/-- **A receive.** From behind the same plaintext comes, in some calls of which all but the last may
come to nothing. -/
theorem recv_trailing (hp : p.Steady) {k fuel : ℕ} (hk : 0 < k) {s s' : Session σ}
    {e e' e₁ : Env Script} {c : Bytes} {t₁ : Transport σ Unit}
    (h : Trailing s' e'.world s e.world) (hcore : s'.core = s.core)
    (hr : (upon s).recv (Script.backing p) k fuel e = some (.ok c, t₁, e₁)) :
    ∃ s₁ s₁' e₁', t₁ = upon s₁ ∧ Trailing s₁' e₁'.world s₁ e₁.world ∧ s₁'.core = s₁.core ∧
      ∀ {next d t₂ e₂},
        Runs (Script.backing p) (.receive (k - c.length) fun r => next (c ++ r)) (upon s₁') e₁' d
          t₂ e₂ →
        Runs (Script.backing p) (.receive k next) (upon s') e' (c ++ d) t₂ e₂ := by
  rw [recv_upon hk] at hr
  obtain ⟨⟨a, s₁, e₂⟩, ho, he⟩ := Option.map_eq_some_iff.mp hr
  simp only [Prod.mk.injEq] at he
  obtain ⟨rfl, rfl, rfl⟩ := he
  have hends := recvOn_iff.mp ⟨fuel, ho⟩
  rcases hf : s.flush (Env.stream Script.sockets ()) e with ⟨q, s₂, e₃⟩
  have hends : (Turn.afterFlush (q, s₂, e₃)).EndsAs (Script.backing p) () k
      (.ok c, s₁, e₂) := by
    rw [← hf]
    exact hends
  cases ht : Turn.afterFlush (q, s₂, e₃) with
  | done o =>
    rw [ht] at hends
    obtain ⟨f, hf⟩ := error_of_afterFlush ht
    obtain rfl := hends
    cases hf
  | again s₃ e₄ =>
    obtain ⟨hq, rfl, rfl⟩ := afterFlush_eq_again_iff.mp ht
    rw [ht] at hends
    obtain ⟨hahead, hcalm⟩ := h.flush_ahead hf hq
    rcases hf' : s'.flush (Env.stream Script.sockets ()) e' with ⟨q', s₄, e₅⟩
    obtain ⟨hq', hbehind⟩ := hahead.flush_behind hcalm hf'
    have hcore' : s₄.core = s₂.core :=
      (Session.core_of_flush hf').trans (hcore.trans (Session.core_of_flush hf).symm)
    obtain ⟨s₁', e₁', h₁, hc₁, hruns⟩ := receives_trailing hp hk hends rfl hbehind (.inl hcore')
      hcalm (comesBy_of_flush hf' hq')
    exact ⟨s₁, s₁', e₁', rfl, h₁, hc₁, hruns⟩

end Transport

end SecureStream
