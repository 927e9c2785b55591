import SecureStream.Proofs.Metrics.Postings
import Mathlib.Algebra.BigOperators.Ring.Finset

/-! # The metrics of all transports of a process

Transports of several kinds share one environment. They are allocated, used in any order and given
up, and in between the world and the runtime may change in any way (`Fleet`). An account is a sum of
totals; if every call changes it by what the caller was told, it is the sum over all calls
(`Fleet.account`). `fleet_balanced` lists the accounts (`Balanced`). -/

namespace SecureStream

/-- All outcomes. -/
def Status.all : List Status :=
  [.success, .invalidParameter, .insufficientMemory, .invalidCredentials, .connectFailure,
    .handshakeFailed, .internalError]

theorem Status.sum_label (s : Status) :
    (all.map fun s' => if s.label = s'.label then (1 : ℤ) else 0).sum = 1 := by
  cases s <;> decide

/-- What a transport in a state adds to the number of connections. -/
def Lifecycle.gauge (s : Lifecycle) : ℤ := if s = .connected then 1 else 0

theorem Lifecycle.gauge_of_ne {s : Lifecycle} (h : s ≠ .connected) : s.gauge = 0 := if_neg h

namespace Transport

/-! ### What callers are told -/

namespace Call

/-- A connect that went well. -/
def opens (c : Call) : Bool :=
  match c.answer with
  | .connected (.ok ()) => true
  | _ => false

/-- A connect that failed with an outcome of this label. -/
def fails (label : String) (c : Call) : Bool :=
  match c.answer with
  | .connected (.error x) => x.status.label = label
  | _ => false

/-- The octets that the caller was told to have gone in a direction. -/
def octets (d : Direction) (c : Call) : ℕ :=
  match c.answer.count? with
  | some (.ok n) => if c.answer.direction? = some d then n else 0
  | _ => 0

/-- **A call that was told to come back**: with something to send or room for what comes, no octet
went in this direction. -/
def waits (d : Direction) (c : Call) : Bool :=
  match c.answer.count? with
  | some (.ok 0) => c.answer.direction? = some d ∧ c.operation.room? ≠ some 0
  | _ => false

end Call

/-! ### The transports of a process -/

variable {ω ι : Type} {σ κ : ι → Type} {b : ∀ i, Backing ω (σ i) (κ i)} {e₀ e : Env ω}

/-- A transport of one of several kinds. -/
abbrev Member (σ κ : ι → Type) := Σ i, Transport (σ i) (κ i)

/-- How many of the transports are connected. -/
def active (ms : List (Member σ κ)) : ℕ := ms.countP fun m => m.2.isConnected

theorem active_insert (l₁ l₂ : List (Member σ κ)) {i : ι} (t : Transport (σ i) (κ i)) :
    (active (l₁ ++ ⟨i, t⟩ :: l₂) : ℤ) = active (l₁ ++ l₂) + t.state.gauge := by
  have ht : (if t.isConnected then 1 else 0 : ℤ) = t.state.gauge := by
    simp [isConnected, Lifecycle.gauge]
  simp only [active, List.countP_append, List.countP_cons]
  push_cast
  omega

/-- **What comes about in a process** that begins in `e₀`: the transports there are, the calls that
were made, the last one first, and the environment. -/
inductive Fleet (b : ∀ i, Backing ω (σ i) (κ i)) (e₀ : Env ω) :
    List (Member σ κ) → List Call → Env ω → Prop
  | start : Fleet b e₀ [] [] e₀
  | allocate {ms cs e} (i) (h : Fleet b e₀ ms cs e) : Fleet b e₀ (⟨i, allocated⟩ :: ms) cs e
  | operate (l₁) {i t l₂ cs e op fuel a t' e'} (h : Fleet b e₀ (l₁ ++ ⟨i, t⟩ :: l₂) cs e)
      (ho : op.run (b i) fuel t e = some (a, t', e')) :
      Fleet b e₀ (l₁ ++ ⟨i, t'⟩ :: l₂) (⟨op, a⟩ :: cs) e'
  | drop (l₁) {i t l₂ cs e} (h : Fleet b e₀ (l₁ ++ ⟨i, t⟩ :: l₂) cs e) :
      Fleet b e₀ (l₁ ++ l₂) cs (t.drop (b i) e)
  | meanwhile {ms cs e e'} (h : Fleet b e₀ ms cs e)
      (hm : e'.journal.metrics = e.journal.metrics) : Fleet b e₀ ms cs e'

theorem Fleet.settled {ms : List (Member σ κ)} {cs : List Call} (h : Fleet b e₀ ms cs e) :
    ∀ m ∈ ms, m.2.Settled := by
  induction h with
  | start => simp
  | allocate i _ ih =>
    intro m hm
    rcases List.mem_cons.mp hm with rfl | hm
    · exact settled_of_vacant (by simp [Transport.allocated]) (by simp [Transport.allocated]) rfl
    · exact ih m hm
  | @operate l₁ i t l₂ cs e op fuel a t' e' _ ho ih =>
    have ht : t.Settled := ih ⟨i, t⟩ (by simp)
    have ht' : t'.Settled := (run_kept ht ho).settled
    intro m hm
    rcases List.mem_append.mp hm with hm | hm
    · exact ih m (List.mem_append_left _ hm)
    · rcases List.mem_cons.mp hm with rfl | hm
      · exact ht'
      · exact ih m (by simp [hm])
  | drop _ _ ih =>
    intro m hm
    refine ih m ?_
    rcases List.mem_append.mp hm with hm | hm <;> simp [hm]
  | meanwhile _ _ ih => exact ih

/-- The writers of all sessions that come about take something as soon as no records wait. -/
def AllAccepting (b : ∀ i, Backing ω (σ i) (κ i)) (e₀ : Env ω) : Prop :=
  ∀ {ms cs e}, Fleet b e₀ ms cs e → ∀ m ∈ ms, m.2.Accepting (b m.1)

/-- **An account.** If every call changes a sum of totals by `g`, and by `w` for a connection more or
less, and closing does too, then that is what it comes to. -/
theorem Fleet.account {F : (Metric → ℤ) → ℤ} {g : Call → ℤ} {w : ℤ} {P : Prop}
    (hF : ∀ T T', F (T + T') = F T + F T')
    (hcall : ∀ {c s s' l}, Posted P c s s' l → F (tally l) + w * s.gauge = g c + w * s'.gauge)
    (hclose : ∀ {s l}, Closes s l → F (tally l) + w * s.gauge = 0)
    (hp : P → AllAccepting b e₀) {ms : List (Member σ κ)} {cs : List Call}
    (h : Fleet b e₀ ms cs e) :
    F e.journal.total = F e₀.journal.total + (cs.map g).sum + w * active ms := by
  induction h with
  | start => simp [active]
  | @allocate ms cs e i _ ih =>
    have ha : (active (⟨i, allocated⟩ :: ms) : ℤ) = active ms := by
      simp [active, Transport.allocated, isConnected]
    rw [ha]
    exact ih
  | @operate l₁ i t l₂ cs e op fuel a t' e' h ho ih =>
    have ht : t.Settled := h.settled ⟨i, t⟩ (by simp)
    have hw (hP : P) : t.Accepting (b i) := hp hP h ⟨i, t⟩ (by simp)
    obtain ⟨l, hl, hpost⟩ := run_posts hw ht ho
    have hc := hcall hl
    -- the others are connected as before, so only this transport moves the gauge
    rw [hpost.total, hF, ih, active_insert, active_insert, List.map_cons, List.sum_cons,
      Int.mul_add, Int.mul_add]
    omega
  | @drop l₁ i t l₂ cs e h ih =>
    have ht : t.Settled := h.settled ⟨i, t⟩ (by simp)
    obtain ⟨l, hl, hpost⟩ := drop_posts (b := b i) ht e
    have hc := hclose hl
    rw [hpost.total, hF, ih, active_insert, Int.mul_add]
    omega
  | @meanwhile ms cs e e' _ hm ih =>
    have ht : e'.journal.total = e.journal.total := by
      funext m
      rw [Journal.total, Journal.total, hm]
    rw [ht, ih]

/-! ### What a call changes each account by -/

section
variable {s s' : Lifecycle} {l : List MetricChange} {c : Call} {P : Prop}

theorem Closes.tally_active (h : Closes s l) : tally l .activeConnections = -s.gauge := by
  cases h with
  | vacant hs => simp [Lifecycle.gauge_of_ne hs]
  | tells _ => simp [Lifecycle.gauge]

theorem Closes.sum_results (h : Closes s l) :
    (closeResults.map fun r => tally l (.closeNotifies r)).sum = s.gauge := by
  cases h with
  | vacant hs => simp [Lifecycle.gauge_of_ne hs]
  | @tells result hr =>
    simp only [closeResults, List.mem_cons, List.not_mem_nil, or_false] at hr
    rcases hr with rfl | rfl | rfl <;> simp [closeResults, Lifecycle.gauge]

theorem Closes.tally_other (h : Closes s l) {m : Metric} (ha : m ≠ .activeConnections)
    (hc : ∀ r, m ≠ .closeNotifies r) : tally l m = 0 := by
  cases h with
  | vacant _ => rfl
  | tells _ => simp [(hc _).symm, ha.symm]

theorem tally_shaken (retries : ℕ) {m : Metric} (hm : m ≠ .handshakeRetries) :
    tally (shaken retries) m = if m = .handshakeDurations then 1 else 0 := by
  unfold shaken
  split <;> simp [hm.symm, eq_comm]

theorem Moved.tally_other {d : Direction} {room : ℕ} {r : Except TransportError ℕ}
    (h : Moved P d room r l) {m : Metric} (hs : .bytesSent ≠ m) (hr : .bytesReceived ≠ m)
    (hw : ∀ x, .retries x ≠ m) : tally l m = 0 := by
  cases h with
  | still _ | fails => rfl
  | waits _ => simp [hw]
  | moves _ _ => simp [Metric.octets_ne hs hr]

theorem opens_of_count {op : Operation} {a : Answer} {r : Except TransportError ℕ}
    (ha : a.count? = some r) : Call.opens ⟨op, a⟩ = false := by
  cases a <;> first | rfl | cases ha

theorem fails_of_count {op : Operation} {a : Answer} {r : Except TransportError ℕ}
    (ha : a.count? = some r) (label : String) : Call.fails label ⟨op, a⟩ = false := by
  cases a <;> first | rfl | cases ha

theorem Posted.failed (h : Posted P c s s' l) (label : String) :
    tally l (.failedConnects label) = if c.fails label then 1 else 0 := by
  cases h with
  | connects h =>
    cases h with
    | refused => simp [Call.fails]
    | fails hc => simp [Call.fails, hc.tally_other]
    | connects hc retries => simp [Call.fails, hc.tally_other, tally_shaken]
  | moves _ ha _ h =>
    rw [h.tally_other (by simp) (by simp) (by simp), fails_of_count ha]
    rfl
  | disconnects h _ => simp [Call.fails, h.tally_other]

theorem sum_fails (op : Operation) (x : TransportError) :
    (Status.all.map fun s =>
      if Call.fails s.label ⟨op, .connected (.error x)⟩ then (1 : ℤ) else 0).sum = 1 := by
  simpa [Call.fails] using x.status.sum_label

theorem Posted.attempts (h : Posted P c s s' l) :
    tally l .connects - (Status.all.map fun x => tally l (.failedConnects x.label)).sum =
      if c.opens then 1 else 0 := by
  simp only [h.failed]
  cases h with
  | connects h =>
    cases h with
    | refused => simp [Call.opens, sum_fails]
    | fails hc => simp [Call.opens, hc.tally_other, sum_fails]
    | connects hc retries => simp [Call.opens, Call.fails, hc.tally_other, tally_shaken]
  | moves _ ha _ h =>
    rw [h.tally_other (by simp) (by simp) (by simp)]
    simp [opens_of_count ha, fails_of_count ha]
  | disconnects h _ => simp [Call.fails, Call.opens, h.tally_other]

theorem Posted.handshakes (h : Posted P c s s' l) :
    tally l .handshakeDurations = if c.opens then 1 else 0 := by
  cases h with
  | connects h =>
    cases h with
    | refused => simp [Call.opens]
    | fails hc => simp [Call.opens, hc.tally_other]
    | connects hc retries => simp [Call.opens, hc.tally_other, tally_shaken]
  | moves _ ha _ h =>
    rw [h.tally_other (by simp) (by simp) (by simp), opens_of_count ha]
    rfl
  | disconnects h _ => simp [Call.opens, h.tally_other]

theorem Posted.active (h : Posted P c s s' l) :
    tally l .activeConnections + s.gauge = s'.gauge := by
  cases h with
  | connects h =>
    cases h with
    | refused => simp
    | fails hc => simp [hc.tally_active, Lifecycle.gauge]
    | connects hc retries => simp [hc.tally_active, tally_shaken, Lifecycle.gauge]
  | moves _ ha _ h =>
    rw [h.tally_other (by simp) (by simp) (by simp), Int.zero_add]
  | disconnects h hs => rw [h.tally_active, Lifecycle.gauge_of_ne hs, Int.add_left_neg]

/-- Every session that is opened is closed or still there. -/
theorem Posted.results (h : Posted P c s s' l) :
    (closeResults.map fun r => tally l (.closeNotifies r)).sum + tally l .activeConnections =
      if c.opens then 1 else 0 := by
  cases h with
  | connects h =>
    cases h with
    | refused => simp [Call.opens]
    | fails hc => simp [hc.tally_active, hc.sum_results, Call.opens]
    | connects hc retries => simp [hc.tally_active, hc.sum_results, tally_shaken, Call.opens]
  | moves _ ha _ h =>
    have hz (r : String) : tally l (.closeNotifies r) = 0 :=
      h.tally_other (by simp) (by simp) (by simp)
    rw [h.tally_other (by simp) (by simp) (by simp), opens_of_count ha]
    simp [hz]
  | disconnects h _ =>
    rw [h.tally_active, h.sum_results]
    simp [Call.opens]

theorem Posted.octets (h : Posted P c s s' l) (d : Direction) :
    tally l (.octets d) = c.octets d := by
  cases h with
  | connects h =>
    have hz : tally l (.octets d) = 0 := by
      cases h with
      | refused => cases d <;> simp [Metric.octets]
      | fails hc => cases d <;> simp [Metric.octets, hc.tally_other]
      | connects hc retries => cases d <;> simp [Metric.octets, hc.tally_other, tally_shaken]
    rw [hz]
    rfl
  | @moves op a d' room r s l hd ha hn h =>
    cases h with
    | still _ | fails => simp [Call.octets, ha]
    | waits _ => cases d <;> simp [Call.octets, ha, Metric.octets]
    | moves _ _ => simp [Call.octets, ha, hd]
  | disconnects h _ =>
    have hz : tally l (.octets d) = 0 := h.tally_other (by cases d <;> simp [Metric.octets])
      (by cases d <;> simp [Metric.octets])
    rw [hz]
    rfl

theorem Posted.waits {d : Direction} (h : Posted (d = .send) c s s' l) :
    tally l (.retries d.label) = if c.waits d then 1 else 0 := by
  cases h with
  | connects h =>
    cases h with
    | refused => simp [Call.waits, Answer.count?]
    | fails hc => simp [Call.waits, Answer.count?, hc.tally_other]
    | connects hc retries => simp [Call.waits, Answer.count?, hc.tally_other, tally_shaken]
  | @moves op a d' room r s l hd ha hn h =>
    cases h with
    | still hr => simp [Call.waits, ha, hn, hr]
    | waits hr => simp [Call.waits, ha, hd, hn, hr]
    | @moves n hr h0 =>
      have ho : Metric.octets d' ≠ .retries d.label := Metric.octets_ne (by simp) (by simp) d'
      -- octets are entered: in this direction that is no wait, as something went
      by_cases hdd : d' = d
      · subst hdd
        have hn0 : n ≠ 0 := h0 id
        cases n with
        | zero => exact absurd rfl hn0
        | succ n => simp [Call.waits, ha, ho]
      · cases n <;> simp [Call.waits, ha, ho, hd, hdd]
    | fails => simp [Call.waits, ha]
  | disconnects h _ => simp [Call.waits, Answer.count?, h.tally_other]

end

/-! ### The accounts -/

theorem cast_countP (p : Call → Bool) (cs : List Call) :
    ((cs.countP p : ℕ) : ℤ) = (cs.map fun c => if p c then 1 else 0).sum := by
  induction cs with
  | nil => rfl
  | cons c cs ih =>
    rw [List.countP_cons, List.map_cons, List.sum_cons, ← ih]
    split <;> omega

namespace Fleet

variable {ms : List (Member σ κ)} {cs : List Call}

/-- An account that does not depend on who is connected. -/
theorem account_of_calls {F : (Metric → ℤ) → ℤ} {g : Call → ℤ} {P : Prop}
    (h : Fleet b e₀ ms cs e) (hF : ∀ T T', F (T + T') = F T + F T')
    (hcall : ∀ {c s s' l}, Posted P c s s' l → F (tally l) = g c)
    (hclose : ∀ {s l}, Closes s l → F (tally l) = 0)
    (hp : P → AllAccepting b e₀) :
    F e.journal.total = F e₀.journal.total + (cs.map g).sum := by
  have ha := h.account (g := g) (w := 0) hF (fun hl => by simp [hcall hl])
    (fun hl => by simp [hclose hl]) hp
  rwa [Int.zero_mul, Int.add_zero] at ha

section
variable (h : Fleet b e₀ ms cs e) (h₀ : ∀ m, e₀.journal.total m = 0)
include h h₀

theorem total_connects : e.journal.total .connects = cs.countP Call.opens +
    (Status.all.map fun s => e.journal.total (.failedConnects s.label)).sum := by
  have ha := h.account_of_calls
    (F := fun T => T .connects - (Status.all.map fun s => T (.failedConnects s.label)).sum)
    (fun T T' => by simp [Status.all]; omega) Posted.attempts
    (fun hl => by simp [hl.tally_other]) False.elim
  simp only [← cast_countP, h₀, List.map_const', List.sum_replicate, nsmul_zero, Int.sub_zero,
    Int.zero_add] at ha
  omega

theorem total_failed (label : String) :
    e.journal.total (.failedConnects label) = cs.countP (Call.fails label) := by
  have ha := h.account_of_calls (F := fun T => T (.failedConnects label)) (fun _ _ => rfl)
    (fun hl => hl.failed label) (fun hl => hl.tally_other (by simp) (by simp)) False.elim
  rw [ha, h₀, cast_countP, Int.zero_add]

theorem total_active : e.journal.total .activeConnections = active ms := by
  have ha := h.account (F := fun T => T .activeConnections) (g := fun _ => 0) (w := 1)
    (fun _ _ => rfl) (fun hl => by simp [hl.active]) (fun hl => by simp [hl.tally_active])
    False.elim
  simpa [h₀] using ha

theorem total_closed : (closeResults.map fun r => e.journal.total (.closeNotifies r)).sum =
    cs.countP Call.opens - e.journal.total .activeConnections := by
  have ha := h.account_of_calls
    (F := fun T => (closeResults.map fun r => T (.closeNotifies r)).sum + T .activeConnections)
    (fun T T' => by simp [closeResults]; omega) Posted.results
    (fun hl => by rw [hl.sum_results, hl.tally_active, Int.add_right_neg]) False.elim
  simp only [← cast_countP, h₀, List.map_const', List.sum_replicate, nsmul_zero, Int.add_zero,
    Int.zero_add] at ha
  omega

theorem total_octets (d : Direction) :
    e.journal.total (.octets d) = (cs.map (Call.octets d)).sum := by
  have ha := h.account_of_calls (F := fun T => T (.octets d)) (g := fun c => c.octets d)
    (fun _ _ => rfl) (fun hl => hl.octets d)
    (fun hl => hl.tally_other (by cases d <;> simp [Metric.octets])
      (by cases d <;> simp [Metric.octets])) False.elim
  rw [ha, h₀, Int.zero_add, Nat.cast_list_sum, List.map_map]
  rfl

theorem total_retries (d : Direction) (hd : d = .send → AllAccepting b e₀) :
    e.journal.total (.retries d.label) = cs.countP (Call.waits d) := by
  have ha := h.account_of_calls (F := fun T => T (.retries d.label)) (fun _ _ => rfl)
    (fun hl => hl.waits) (fun hl => hl.tally_other (by simp) (by simp)) hd
  rw [ha, h₀, cast_countP, Int.zero_add]

theorem total_handshakes : e.journal.total .handshakeDurations = cs.countP Call.opens := by
  have ha := h.account_of_calls (F := fun T => T .handshakeDurations) (fun _ _ => rfl)
    Posted.handshakes (fun hl => hl.tally_other (by simp) (by simp)) False.elim
  rw [ha, h₀, cast_countP, Int.zero_add]

end

end Fleet

/-- **What the metrics come to** after these calls, with these transports left. -/
structure Balanced (b : ∀ i, Backing ω (σ i) (κ i)) (e₀ : Env ω) (ms : List (Member σ κ))
    (cs : List Call) (T : Metric → ℤ) : Prop where
  connects : T .connects =
    cs.countP Call.opens + (Status.all.map fun s => T (.failedConnects s.label)).sum
  failed : ∀ label, T (.failedConnects label) = cs.countP (Call.fails label)
  active : T .activeConnections = active ms
  closed : (closeResults.map fun r => T (.closeNotifies r)).sum =
    cs.countP Call.opens - T .activeConnections
  octets : ∀ d, T (.octets d) = (cs.map (Call.octets d)).sum
  /-- For sends, if the writers take something as soon as no records wait. -/
  retries : ∀ d, (d = .send → AllAccepting b e₀) →
    T (.retries d.label) = cs.countP (Call.waits d)
  handshakes : T .handshakeDurations = cs.countP Call.opens

/-- **The metrics balance.** Whatever transports a process has, in whatever order they are used, and
however sockets, protocols and runtime behave: if the metrics began at zero, every connect is
counted once, and a failure once more under the label of its outcome; the gauge is the number of
transports that are connected, and every other session that was opened has been closed with one
result; the octets and the retries are those that the callers were told of. -/
theorem fleet_balanced {ms : List (Member σ κ)} {cs : List Call} (h₀ : ∀ m, e₀.journal.total m = 0)
    (h : Fleet b e₀ ms cs e) : Balanced b e₀ ms cs e.journal.total where
  connects := h.total_connects h₀
  failed := h.total_failed h₀
  active := h.total_active h₀
  closed := h.total_closed h₀
  octets := h.total_octets h₀
  retries := h.total_retries h₀
  handshakes := h.total_handshakes h₀

/-- A transport connects, has to wait for what comes, connects again, and is asked to connect to a
host without a name. -/
theorem fleet_balanced_again :
    ∃ (ms : List (Member (fun _ : Unit => Bytes) fun _ => Unit)) (cs : List Call)
      (e₀ e : Env Script),
      (∀ m, e₀.journal.total m = 0) ∧ Fleet (fun _ => Script.backing .plain) e₀ ms cs e ∧
      e.journal.total (.failedConnects "invalid_parameter") = 1 ∧
      e.journal.total .activeConnections = 1 ∧
      (closeResults.map fun r => e.journal.total (.closeNotifies r)).sum = 1 ∧
      e.journal.total (.retries "recv") = 1 ∧ e.journal.total (.retries "send") = 0 ∧
      e.journal.total .handshakeDurations = 2 := by
  let b : Unit → Backing Script Bytes Unit := fun _ => Script.backing .plain
  let e₀ := Script.inEnv ⟨.const (.ok 1), .const (.error (.plain .wouldBlock)), []⟩
  let op (host : String) : Operation := .connect host 443 .bareRoot (.ofMillis 1) (.ofMillis 1)
  have hrun : (((op "host").run (b ()) 1 allocated e₀).bind fun o =>
      ((Operation.recv 5).run (b ()) 1 o.2.1 o.2.2).bind fun o₁ =>
        ((op "host").run (b ()) 1 o₁.2.1 o₁.2.2).bind fun o₂ =>
          ((op "").run (b ()) 1 o₂.2.1 o₂.2.2).map fun o₃ =>
            let cs : List Call :=
              [⟨op "", o₃.1⟩, ⟨op "host", o₂.1⟩, ⟨.recv 5, o₁.1⟩, ⟨op "host", o.1⟩]
            (cs.countP Call.opens, cs.countP (Call.fails "invalid_parameter"),
              cs.countP (Call.waits .recv), cs.countP (Call.waits .send),
              active [(⟨(), o₃.2.1⟩ : Member (fun _ : Unit => Bytes) fun _ => Unit)])) =
      some (2, 1, 1, 0, 1) := by
    decide +kernel
  obtain ⟨⟨a, t, e⟩, h, hrest⟩ := Option.bind_eq_some_iff.mp hrun
  obtain ⟨⟨a₁, t₁, e₁⟩, h₁, hrest⟩ := Option.bind_eq_some_iff.mp hrest
  obtain ⟨⟨a₂, t₂, e₂⟩, h₂, hrest⟩ := Option.bind_eq_some_iff.mp hrest
  obtain ⟨⟨a₃, t₃, e₃⟩, h₃, hcounts⟩ := Option.map_eq_some_iff.mp hrest
  simp only [Prod.mk.injEq] at hcounts
  obtain ⟨hopens, hfails, hrecv, hsend, hactive⟩ := hcounts
  have hf : Fleet b e₀ [⟨(), t₃⟩]
      [⟨op "", a₃⟩, ⟨op "host", a₂⟩, ⟨.recv 5, a₁⟩, ⟨op "host", a⟩] e₃ :=
    .operate [] (.operate [] (.operate [] (.operate [] (.allocate () .start) h) h₁) h₂) h₃
  have h₀ : ∀ m, e₀.journal.total m = 0 := fun _ => rfl
  have hb := fleet_balanced h₀ hf
  have ha : e₃.journal.total .activeConnections = 1 := by
    rw [hb.active, hactive]
    rfl
  have hp : AllAccepting b e₀ := fun _ _ _ _ _ _ hd => List.length_pos_iff.mpr hd
  have hclosed := hb.closed
  have hfailed := hb.failed "invalid_parameter"
  have hreceives := hb.retries .recv nofun
  have hsends := hb.retries .send fun _ => hp
  have hshaken := hb.handshakes
  rw [hopens, ha] at hclosed
  rw [hfails] at hfailed
  rw [hrecv] at hreceives
  rw [hsend] at hsends
  rw [hopens] at hshaken
  exact ⟨_, _, e₀, e₃, h₀, hf, hfailed, ha, hclosed, hreceives, hsends, hshaken⟩

end Transport

end SecureStream
