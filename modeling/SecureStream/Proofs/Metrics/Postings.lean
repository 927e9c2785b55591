import SecureStream.Proofs.Transport.SocketUse
import Mathlib.Algebra.Group.Int.Defs
import Mathlib.Algebra.Group.Pi.Basic

/-! # What the operations enter in the metrics

From one environment to a later one changes of the metrics are entered (`Env.Posts`), and what they
come to is the difference of the totals (`Env.Posts.total`). Using a socket enters nothing; a send
or a receive enters one change if it goes well (`sendOn_posts`, `recvOn_posts`), closing a session
two (`disconnect_posts`), and a connect what belongs to the stages that it passed (`connect_posts`).
`run_posts` says for every operation what it enters (`Posted`). -/

namespace SecureStream

variable {ω σ κ : Type}

/-! ### Sums of changes -/

/-- **What a list of changes comes to** for a metric. -/
def tally (l : List MetricChange) (m : Metric) : ℤ :=
  (l.map fun c => if c.metric = m then c.by_ else 0).sum

@[simp] theorem tally_nil (m : Metric) : tally [] m = 0 := rfl

@[simp] theorem tally_cons (c : MetricChange) (l : List MetricChange) (m : Metric) :
    tally (c :: l) m = (if c.metric = m then c.by_ else 0) + tally l m := by
  simp [tally]

@[simp] theorem tally_append (l l' : List MetricChange) (m : Metric) :
    tally (l ++ l') m = tally l m + tally l' m := by
  simp [tally]

theorem Journal.total_eq_tally (j : Journal) (m : Metric) :
    j.total m = tally j.metrics.toList m := by
  have fold (l : List MetricChange) (n : ℤ) :
      (l.filter fun c => c.metric == m).foldl (fun n c => n + c.by_) n = n + tally l m := by
    induction l generalizing n with
    | nil => simp
    | cons c l ih =>
      by_cases hc : c.metric = m
      · simp [hc, ih, Int.add_assoc]
      · simp [hc, ih]
  rw [total, fold, Int.zero_add]

namespace Env

variable {l l' : List MetricChange} {e f g : Env ω}

/-- **From `e` to `f` these changes of metrics are entered**, in this order. -/
def Posts (l : List MetricChange) (e f : Env ω) : Prop :=
  f.journal.metrics.toList = e.journal.metrics.toList ++ l

theorem Posts.of_metrics_eq (h : f.journal.metrics = e.journal.metrics) : Posts [] e f := by
  rw [Posts, h, List.append_nil]

theorem Posts.trans (h : Posts l e f) (h' : Posts l' f g) : Posts (l ++ l') e g := by
  rw [Posts, h', h, List.append_assoc]

theorem Posts.still (h : Posts l e f) (h' : Posts [] f g) : Posts l e g := by
  rw [Posts, h', h, List.append_nil]

theorem Posts.congr (h : Posts l e f) (hg : g.journal.metrics = f.journal.metrics) : Posts l e g :=
  h.still (.of_metrics_eq hg)

theorem posts_count (metric : Metric) (by_ : ℤ) (e : Env ω) :
    Posts [⟨metric, by_⟩] e (e.count metric by_) :=
  Array.toList_push

theorem Posts.count (h : Posts l e f) (metric : Metric) (by_ : ℤ) :
    Posts (l ++ [⟨metric, by_⟩]) e (f.count metric by_) :=
  h.trans (posts_count metric by_ f)

/-- **What is entered makes the difference of the totals.** -/
theorem Posts.total (h : Posts l e f) : f.journal.total = e.journal.total + tally l := by
  funext m
  rw [Pi.add_apply, Journal.total_eq_tally, Journal.total_eq_tally, h, tally_append]

theorem stream_posts (i : Sockets ω κ) (s : κ) : (Env.stream i s).Keeps (Posts []) :=
  ByteStream.Keeps.normalised ⟨fun _ => .of_metrics_eq rfl, Posts.trans,
    fun _ _ => .of_metrics_eq rfl, fun _ _ => .of_metrics_eq rfl⟩

theorem clock_posts (c : Clock ω) : c.inEnv.Keeps (Posts []) :=
  ⟨fun _ => .of_metrics_eq rfl, fun _ _ => .of_metrics_eq rfl⟩

end Env

/-! ### Directions -/

/-- The label of a direction in the metrics. -/
def Direction.label : Direction → String
  | .send => "send"
  | .recv => "recv"

@[simp] theorem Direction.label_inj {d d' : Direction} : d.label = d'.label ↔ d = d' := by
  cases d <;> cases d' <;> simp [label]

/-- The metric of the octets that go in a direction. -/
def Metric.octets : Direction → Metric
  | .send => bytesSent
  | .recv => bytesReceived

@[simp] theorem Metric.octets_inj {d d' : Direction} : octets d = octets d' ↔ d = d' := by
  cases d <;> cases d' <;> simp [octets]

theorem Metric.octets_ne {m : Metric} (hs : bytesSent ≠ m) (hr : bytesReceived ≠ m)
    (d : Direction) : octets d ≠ m := by
  cases d
  · exact hs
  · exact hr

/-- **A writer that takes something** as soon as no records wait. -/
def Protocol.Accepts (p : Protocol σ) (core : σ) : Prop :=
  ∀ data, data ≠ [] → 0 < (p.write core 0 data).accepted

namespace Transport

variable {b : Backing ω σ κ} {socket : κ} {P : Prop} {limit : ℕ}

/-- **What moving plaintext enters**, with `room` octets to send or room for as many. A count that
is entered is not zero if `P`. -/
inductive Moved (P : Prop) (d : Direction) (room : ℕ) :
    Except TransportError ℕ → List MetricChange → Prop
  /-- There is nothing to send, or no room for what comes. -/
  | still (h : room = 0) : Moved P d room (.ok 0) []
  /-- The socket is not ready. -/
  | waits (h : room ≠ 0) : Moved P d room (.ok 0) [⟨.retries d.label, 1⟩]
  | moves {n} (h : room ≠ 0) (hn : P → n ≠ 0) : Moved P d room (.ok n) [⟨.octets d, n⟩]
  | fails {x} : Moved P d room (.error x) []

theorem faulted_posts (operation : String) (f : StreamFault) (e : Env ω) :
    Env.Posts [] e (faulted operation f e) := by
  cases f <;> exact .of_metrics_eq rfl

theorem flush_posts {s s' : Session σ} {e e' : Env ω} {r : Except StreamFault Unit}
    (h : s.flush (Env.stream b.sockets socket) e = (r, s', e')) : Env.Posts [] e e' := by
  have hf := Session.flush_keeps (Env.stream_posts b.sockets socket) s e
  rwa [h] at hf

theorem readTls_posts {s s' : Session σ} {e e' : Env ω} {r : Except IoError ℕ}
    (h : s.readTls b.protocol (Env.stream b.sockets socket) e = (r, s', e')) :
    Env.Posts [] e e' := by
  have hr := Session.readTls_keeps (Env.stream_posts b.sockets socket) b.protocol s e
  rwa [h] at hr

/-! ### Sending -/

/-- **A send enters one change** if it goes well, and none if it fails. -/
theorem sendOn_posts {s : Session σ} (hp : P → b.protocol.Accepts s.core) {data : Bytes}
    (hd : data ≠ []) (e : Env ω) :
    ∃ l, Moved P .send data.length (sendOn b socket data s e).1 l ∧
      Env.Posts l e (sendOn b socket data s e).2.2 := by
  have hn : data.length ≠ 0 := mt List.eq_nil_of_length_eq_zero hd
  have hs := sendOn_spec b socket data s e
  generalize sendOn b socket data s e = o at hs
  cases hs with
  | waits h _ => exact ⟨_, .waits hn, (flush_posts h).count _ _⟩
  | fails h _ => exact ⟨_, .fails, (flush_posts h).trans (faulted_posts _ _ _)⟩
  | refused h _ => exact ⟨_, .fails, (flush_posts h).trans (faulted_posts _ _ _)⟩
  | @takes s₁ e₁ r s₂ e₂ h _ h₂ _ =>
    refine ⟨_, .moves hn fun hP => ?_, ((flush_posts h).trans (flush_posts h₂)).count _ _⟩
    -- the first flush has left no record
    rw [Session.accepted, Session.pending_of_empty (Session.outbox_flush_of_ok h),
      Session.core_of_flush h]
    exact Nat.ne_of_gt (hp hP data hd)
  | spoilt h _ h₂ _ =>
    exact ⟨_, .fails, ((flush_posts h).trans (flush_posts h₂)).trans (faulted_posts _ _ _)⟩

/-! ### Receiving -/

/-- What a part of a receive that began in `e` has entered. -/
def Turn.Posts (P : Prop) (limit : ℕ) (e : Env ω) : Turn ω σ → Prop
  | .done o => ∃ l, Moved P .recv limit (o.1.map List.length) l ∧ Env.Posts l e o.2.2
  | .again _ e' => Env.Posts [] e e'

theorem Turn.Posts.failed {e e' : Env ω} (h : Env.Posts [] e e') (f : StreamFault)
    (s : Session σ) : (Turn.failed f s e').Posts P limit e :=
  ⟨_, .fails, h.trans (faulted_posts _ _ _)⟩

theorem Turn.Posts.of_nil {e e₁ : Env ω} {t : Turn ω σ} (h : Env.Posts [] e e₁)
    (ht : t.Posts P limit e₁) : t.Posts P limit e := by
  cases t with
  | done o =>
    obtain ⟨l, hm, hl⟩ := ht
    exact ⟨l, hm, h.trans hl⟩
  | again s e' => exact h.trans ht

theorem afterFlush_posts (s : Session σ) (e : Env ω) :
    (Turn.afterFlush (s.flush (Env.stream b.sockets socket) e)).Posts P limit e := by
  rcases h : s.flush (Env.stream b.sockets socket) e with ⟨f | _, s₁, e₁⟩
  · by_cases hf : f.isRetryable
    · rw [afterFlush_of_retryable hf]
      exact flush_posts h
    · rw [afterFlush_of_fatal hf]
      exact .failed (flush_posts h) f s₁
  · exact flush_posts h

theorem turn_posts (hn : limit ≠ 0) (s : Session σ) (e : Env ω) :
    (turn b socket limit s e).Posts P limit e := by
  have ht := turn_spec b socket limit s e
  generalize turn b socket limit s e = t at ht
  cases ht with
  | delivers h =>
    have hl := mt List.eq_nil_of_length_eq_zero h
    exact ⟨_, .moves hn fun _ => hl, Env.posts_count _ _ e⟩
  | closed _ => exact .failed (.of_metrics_eq rfl) _ _
  | ended _ _ _ => exact .failed (.of_metrics_eq rfl) _ _
  | waits _ h _ => exact ⟨_, .waits hn, (readTls_posts h).count _ _⟩
  | fails _ h _ => exact .failed (readTls_posts h) _ _
  | @refuses n s₁ e₁ x s₂ _ h _ =>
    exact .failed ((readTls_posts h).trans (flush_posts (by rfl))) (.tls x) _
  | works _ h _ ht =>
    subst ht
    exact (afterFlush_posts _ _).of_nil (readTls_posts h)

theorem receives_posts (hn : limit ≠ 0) {s : Session σ} {e : Env ω} {o : Received ω σ}
    (h : Receives b socket limit s e o) : (Turn.done o).Posts P limit e := by
  induction h with
  | @done s e o ht =>
    rw [← ht]
    exact turn_posts hn s e
  | @again s e s' e' o ht _ ih =>
    have ha : (turn b socket limit s e).Posts P limit e := turn_posts hn s e
    rw [ht] at ha
    exact ih.of_nil ha

/-- **A receive enters one change** if it goes well, and none if it fails. -/
theorem recvOn_posts (hn : limit ≠ 0) {fuel : ℕ} {s : Session σ} {e : Env ω} {o : Received ω σ}
    (h : recvOn b socket limit fuel s e = some o) :
    ∃ l, Moved P .recv limit (o.1.map List.length) l ∧ Env.Posts l e o.2.2 := by
  have hf : (Turn.afterFlush (s.flush (Env.stream b.sockets socket) e)).Posts P limit e :=
    afterFlush_posts s e
  have ho := recvOn_iff.mp ⟨fuel, h⟩
  generalize Turn.afterFlush (s.flush (Env.stream b.sockets socket) e) = t at hf ho
  cases t with
  | done o' =>
    obtain rfl := ho
    exact hf
  | again s₁ e₁ => exact (receives_posts hn ho).of_nil hf

/-! ### Closing -/

/-- How the peer may be told of the end. -/
def closeResults : List String := ["sent", "pending", "failed"]

/-- **What closing enters**: nothing without a connection. -/
inductive Closes : Lifecycle → List MetricChange → Prop
  | vacant {s} (h : s ≠ .connected) : Closes s []
  | tells {result} (h : result ∈ closeResults) :
    Closes .connected [⟨.closeNotifies result, 1⟩, ⟨.activeConnections, -1⟩]

theorem reportClose_posts (r : Except StreamFault Unit) (e : Env ω) :
    ∃ result ∈ closeResults, Env.Posts [⟨.closeNotifies result, 1⟩] e (reportClose r e) := by
  unfold reportClose
  split
  · exact ⟨"sent", by simp [closeResults], Env.posts_count _ _ e⟩
  · split
    · exact ⟨"pending", by simp [closeResults], Env.posts_count _ _ e⟩
    · exact ⟨"failed", by simp [closeResults], Env.posts_count _ _ e⟩

section
variable {t t' : Transport σ κ} {e e' : Env ω}

/-- **A disconnect** enters how the peer was told, and that the session is gone. -/
theorem disconnect_posts (ht : t.Settled) (e : Env ω) :
    ∃ l, Closes t.state l ∧ Env.Posts l e (t.disconnect b e).2 := by
  unfold disconnect
  by_cases hs : t.state = .connected
  · obtain ⟨live, hl⟩ := ht.exists_session hs
    rw [if_neg (by simpa using hs), hl, hs]
    dsimp only
    rcases h : (live.tls.closeNotify b.protocol).flush (Env.stream b.sockets live.socket) e with
      ⟨r, s, e₁⟩
    obtain ⟨result, hr, hp⟩ := reportClose_posts r e₁
    refine ⟨_, .tells hr, Env.Posts.count (l := [⟨.closeNotifies result, 1⟩]) ?_ _ _⟩
    exact ((flush_posts h).trans hp).congr rfl
  · rw [if_pos hs]
    exact ⟨[], .vacant hs, .of_metrics_eq rfl⟩

theorem drop_posts (ht : t.Settled) (e : Env ω) :
    ∃ l, Closes t.state l ∧ Env.Posts l e (t.drop b e) := by
  unfold drop
  by_cases hs : t.state = .connected
  · rw [if_pos hs]
    exact disconnect_posts ht e
  · rw [if_neg hs]
    exact ⟨[], .vacant hs, .of_metrics_eq rfl⟩

theorem vacate_posts (ht : t.Settled) (e : Env ω) :
    ∃ l, Closes t.state l ∧ Env.Posts l e (t.vacate b e).2 := by
  unfold vacate
  by_cases hs : t.state = .connected
  · rw [if_pos hs]
    obtain ⟨l, hc, hp⟩ := disconnect_posts (b := b) ht
      (e.log [.warning "connect called on a connected transport; closing the old session" []])
    exact ⟨l, hc, (Env.Posts.of_metrics_eq rfl).trans hp⟩
  · rw [if_neg hs]
    exact ⟨[], .vacant hs, .of_metrics_eq rfl⟩

end

/-! ### Connecting -/

/-- What a handshake enters that took a number of retries. -/
def shaken (retries : ℕ) : List MetricChange :=
  (if retries = 0 then [] else [⟨.handshakeRetries, retries⟩]) ++ [⟨.handshakeDurations, 1⟩]

/-- **What the stages up to `p` have entered**: only the handshake enters anything. -/
def Connecting.Posted : Connecting σ κ → List MetricChange → Prop
  | .ready _ _, l => ∃ retries, l = shaken retries
  | _, l => l = []

section
variable {host : String} {port : ℕ} {c : Credentials} {config : TransportConfig} {fuel : ℕ}

theorem shakeHands_posts {s : Session σ} {e e' : Env ω} {r : Except TransportError (Session σ)}
    (h : shakeHands b socket config fuel s e = some (r, e')) :
    (∃ x, r = .error x) ∧ Env.Posts [] e e' ∨
      (∃ s', r = .ok s') ∧ ∃ retries, Env.Posts (shaken retries) e e' := by
  obtain ⟨⟨f | stats, s₁, e₁⟩, hd, ho⟩ := Option.map_eq_some_iff.mp h
  all_goals
    have hk := Handshake.drive_keeps (Env.stream_posts b.sockets socket)
      (Env.clock_posts b.clock) hd
    cases ho
  · exact .inl ⟨⟨_, rfl⟩, hk.congr rfl⟩
  · refine .inr ⟨⟨_, rfl⟩, stats.retries, Env.Posts.count ?_ _ _⟩
    split
    · exact hk
    · exact hk.count _ _

/-- **One stage**: only the last one enters anything, and only if it goes well. -/
theorem advance_posts {p : Connecting σ κ} {e e' : Env ω}
    {r : Except TransportError (Connecting σ κ)}
    (h : advance b host port c config fuel p e = some (r, e')) :
    ∃ l, Env.Posts l e e' ∧ (∀ x, r = .error x → l = []) ∧ (∀ q, r = .ok q → q.Posted l) := by
  cases p with
  | vacant | opened | receiveLimited | limited =>
    simp only [advance] at h
    split at h
    all_goals
      next he =>
        cases h
        obtain ⟨-, rfl⟩ := Prod.mk.inj he
        refine ⟨[], .of_metrics_eq rfl, fun _ _ => rfl, fun q hq => ?_⟩
        cases hq <;> rfl
  | connected | provided | configured =>
    simp only [advance] at h
    split at h
    all_goals
      cases h
      refine ⟨[], .of_metrics_eq rfl, fun _ _ => rfl, fun q hq => ?_⟩
      cases hq <;> rfl
  | started k s =>
    obtain ⟨⟨r', e₁⟩, hs, ho⟩ := Option.map_eq_some_iff.mp h
    cases ho
    rcases shakeHands_posts hs with ⟨⟨x, rfl⟩, hp⟩ | ⟨⟨s', rfl⟩, retries, hp⟩
    · refine ⟨[], hp, fun _ _ => rfl, fun q hq => ?_⟩
      cases hq
    · refine ⟨_, hp, fun x hx => ?_, fun q hq => ?_⟩
      · cases hx
      · cases hq
        exact ⟨retries, rfl⟩
  | ready k s => cases h

theorem Connecting.Posted.eq_nil {p q : Connecting σ κ} {e f : Env ω} {l : List MetricChange}
    (h : p.Posted l) (hp : Passes b host port c config fuel (p, e) (q, f)) : l = [] := by
  cases p with
  | ready k s => cases hp
  | _ => exact h

/-- **The stages that are passed**, by induction over them. -/
theorem passed_posts {e₀ e : Env ω} {p : Connecting σ κ}
    (h : Passed b host port c config fuel e₀ p e) : ∃ l, p.Posted l ∧ Env.Posts l e₀ e := by
  unfold Passed at h
  generalize hx : (p, e) = x at h
  induction h generalizing p e with
  | refl =>
    cases hx
    exact ⟨[], rfl, .of_metrics_eq rfl⟩
  | @tail y z _ hs ih =>
    obtain ⟨q, f⟩ := y
    subst hx
    obtain ⟨l, hq, hl⟩ := ih rfl
    obtain rfl := hq.eq_nil hs
    obtain ⟨l', hl', -, hp⟩ := advance_posts hs
    exact ⟨l', hp p rfl, hl.trans hl'⟩

theorem release_posts (p : Connecting σ κ) (e : Env ω) : Env.Posts [] e (p.release b e) := by
  unfold Connecting.release
  split <;> exact .of_metrics_eq rfl

theorem fails_posts {e₀ e e' : Env ω} {p : Connecting σ κ} {x : TransportError}
    (hp : Passed b host port c config fuel e₀ p e)
    (hf : Fails b host port c config fuel p e x e') : Env.Posts [] e₀ (p.release b e') := by
  obtain ⟨l, hl, hpost⟩ := passed_posts hp
  obtain ⟨l', hpost', hx, -⟩ := advance_posts hf
  obtain rfl := hx x rfl
  have hnil : l = [] := by
    cases p with
    | ready k s => cases hf
    | _ => exact hl
  subst hnil
  exact (hpost.trans hpost').trans (release_posts p e')

/-- **What a connect enters.** -/
inductive ConnectPosts :
    Lifecycle → Except TransportError Unit → Lifecycle → List MetricChange → Prop
  /-- The arguments are not there. -/
  | refused {s x} : ConnectPosts s (.error x) s
      [⟨.connects, 1⟩, ⟨.failedConnects x.status.label, 1⟩]
  /-- A stage fails, after the session before was closed. -/
  | fails {s x l} (hc : Closes s l) : ConnectPosts s (.error x) .allocated
      ([⟨.connects, 1⟩] ++ l ++ [⟨.failedConnects x.status.label, 1⟩])
  /-- All stages are passed. -/
  | connects {s l} (hc : Closes s l) (retries : ℕ) : ConnectPosts s (.ok ()) .connected
      ([⟨.connects, 1⟩] ++ l ++ shaken retries ++ [⟨.activeConnections, 1⟩])

theorem connect_posts {t t' : Transport σ κ} {e e' : Env ω} {r : Except TransportError Unit}
    (ht : t.Settled) (h : t.connect b host port c config fuel e = some (r, t', e')) :
    ∃ l, ConnectPosts t.state r t'.state l ∧ Env.Posts l e e' := by
  have ha : Env.Posts [⟨.connects, 1⟩] e (attempted e) := Env.posts_count _ _ e
  have reported {l : List MetricChange} {f : Env ω} (x : TransportError) (hl : Env.Posts l e f) :
      Env.Posts (l ++ [⟨.failedConnects x.status.label, 1⟩]) e (reported x f) :=
    (hl.count _ _).congr rfl
  cases (connect_iff ht).mp h with
  | refused _ => exact ⟨_, .refused, reported _ ha⟩
  | fails _ hp hf =>
    obtain ⟨l, hc, hv⟩ := vacate_posts (b := b) ht (attempted e)
    exact ⟨_, .fails hc, reported _ ((ha.trans hv).still (fails_posts hp hf))⟩
  | connects _ hp =>
    obtain ⟨l, hc, hv⟩ := vacate_posts (b := b) ht (attempted e)
    obtain ⟨l', ⟨retries, rfl⟩, hp⟩ := passed_posts hp
    exact ⟨_, .connects hc retries, ((ha.trans hv).trans hp).count _ _⟩

end

/-! ### Operations -/

/-- **An operation with its answer.** -/
structure Call where
  operation : Operation
  answer : Answer

/-- The direction that an answer is about, if plaintext was to be moved. -/
def Answer.direction? : Answer → Option Direction
  | .sent _ => some .send
  | .received _ | .appended _ _ => some .recv
  | .connected _ | .disconnected => none

/-- **What a call enters** that takes a transport from one state to another. A send that did not
have to wait has sent something if `P`. -/
inductive Posted (P : Prop) : Call → Lifecycle → Lifecycle → List MetricChange → Prop
  | connects {op r s s' l} (h : ConnectPosts s r s' l) : Posted P ⟨op, .connected r⟩ s s' l
  | moves {op a d room r s l} (hd : a.direction? = some d) (ha : a.count? = some r)
      (hn : op.room? = some room) (h : Moved (d = .send → P) d room r l) : Posted P ⟨op, a⟩ s s l
  | disconnects {op s s' l} (h : Closes s l) (hs : s' ≠ .connected) :
    Posted P ⟨op, .disconnected⟩ s s' l

section
variable {t t' : Transport σ κ} {e e' : Env ω}

/-- The writer of the session takes something as soon as no records wait. -/
def Accepting (b : Backing ω σ κ) (t : Transport σ κ) : Prop :=
  ∀ l, t.session = some l → b.protocol.Accepts l.tls.core

theorem send_posts (hp : P → t.Accepting b) (data : Bytes) (e : Env ω) :
    ∃ l, Moved P .send data.length (t.send b data e).1 l ∧ Env.Posts l e (t.send b data e).2.2 ∧
      (t.send b data e).2.1.state = t.state := by
  cases hl : t.live with
  | error x =>
    rw [send, hl]
    exact ⟨[], .fails, .of_metrics_eq rfl, rfl⟩
  | ok live =>
    by_cases hd : data = []
    · subst hd
      rw [send_nil hl]
      exact ⟨[], .still rfl, .of_metrics_eq rfl, rfl⟩
    · rw [send_of_live hl hd]
      have ha (h : P) : b.protocol.Accepts live.tls.core := hp h live (live_eq_ok_iff.mp hl).2
      obtain ⟨l, hm, hpost⟩ : ∃ l, Moved P .send data.length
          (sendOn b live.socket data live.tls e).1 l ∧
            Env.Posts l e (sendOn b live.socket data live.tls e).2.2 := sendOn_posts ha hd e
      exact ⟨l, hm, hpost, rfl⟩

theorem recv_posts {fuel : ℕ} {r : Except TransportError Bytes}
    (h : t.recv b limit fuel e = some (r, t', e')) :
    ∃ l, Moved P .recv limit (r.map List.length) l ∧ Env.Posts l e e' ∧ t'.state = t.state := by
  cases hl : t.live with
  | error x =>
    rw [recv, hl] at h
    cases h
    exact ⟨[], .fails, .of_metrics_eq rfl, rfl⟩
  | ok live =>
    by_cases hn : limit = 0
    · subst hn
      rw [recv_zero hl] at h
      cases h
      exact ⟨[], .still rfl, .of_metrics_eq rfl, rfl⟩
    · obtain ⟨s, ho, rfl⟩ := recv_of_live hl (Nat.pos_of_ne_zero hn) h
      obtain ⟨l, hm, hpost⟩ := recvOn_posts hn ho
      exact ⟨l, hm, hpost, rfl⟩

/-- **What every operation enters.** -/
theorem run_posts (hp : P → t.Accepting b) (ht : t.Settled) {fuel : ℕ} {op : Operation}
    {a : Answer} (h : op.run b fuel t e = some (a, t', e')) :
    ∃ l, Posted P ⟨op, a⟩ t.state t'.state l ∧ Env.Posts l e e' := by
  cases op with
  | connect | connectWith =>
    obtain ⟨⟨r, t₁, e₁⟩, hc, ho⟩ := Option.map_eq_some_iff.mp h
    cases ho
    obtain ⟨l, hl, hpost⟩ := connect_posts ht hc
    exact ⟨l, .connects hl, hpost⟩
  | send data =>
    rw [Operation.run_send, Option.some.injEq] at h
    simp only [Prod.mk.injEq] at h
    obtain ⟨rfl, rfl, rfl⟩ := h
    obtain ⟨l, hm, hpost, hs⟩ :=
      send_posts (P := Direction.send = .send → P) (fun h => hp (h rfl)) data e
    rw [hs]
    exact ⟨l, .moves rfl rfl rfl hm, hpost⟩
  | recv limit =>
    obtain ⟨⟨r, t₁, e₁⟩, hr, ho⟩ := Option.map_eq_some_iff.mp h
    cases ho
    obtain ⟨l, hm, hpost, hs⟩ := recv_posts hr
    rw [hs]
    exact ⟨l, .moves rfl rfl rfl hm, hpost⟩
  | recvBuffer buffer =>
    obtain ⟨⟨r, buffer', t₁, e₁⟩, hr, ho⟩ := Option.map_eq_some_iff.mp h
    cases ho
    obtain ⟨⟨r', t₂, e₂⟩, hr', ho⟩ := Option.map_eq_some_iff.mp hr
    obtain ⟨l, hm, hpost, hs⟩ := recv_posts hr'
    cases r' with
    | error x | ok data =>
      cases ho
      rw [hs]
      exact ⟨l, .moves rfl rfl rfl hm, hpost⟩
  | disconnect =>
    cases h
    obtain ⟨l, hc, hpost⟩ := disconnect_posts (b := b) ht e
    exact ⟨l, .disconnects hc (disconnect_spec ht e).2.1, hpost⟩

end

end Transport

end SecureStream
