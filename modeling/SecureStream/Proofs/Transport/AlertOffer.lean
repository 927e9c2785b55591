import SecureStream.Proofs.Session.HandshakeHistory
import SecureStream.Proofs.Session.HandshakeStep
import SecureStream.Proofs.Transport.Moves

/-! # What the peer is told when the protocol fails

A protocol that fails leaves records for the peer, the alert last. A receive flushes them; a step of
a handshake offers the first one. So a receive offers all that waits, unless the socket takes
nothing or fails (`flush_offers`), and a handshake does so only if one write is enough (`Suffices`,
`writeTls_offers_iff`).

`alert_offered_iff` is this for every receive and every handshake. With another record ahead of the
alert one write is not enough, and the alert stays in the queue. -/

namespace SecureStream

variable {ω σ κ : Type}

/-! ### Replies to sends -/

namespace Env

/-- **The replies to sends**, in the order of the calls. -/
def answers (e : Env ω) : List SocketReply :=
  e.journal.calls.toList.filterMap fun c => if c.request = .send then some c.reply else none

theorem answers_send (i : Sockets ω κ) (k : κ) (d : Bytes) (e : Env ω) :
    (e.send i k d).2.answers = e.answers ++
      [replyOf (fun n => if n = 0 then .nothing else .done) (e.send i k d).1] := by
  simp [send, entered, answers, Journal.call]

@[simp] theorem answers_recv (i : Sockets ω κ) (k : κ) (limit : ℕ) (e : Env ω) :
    (e.recv i k limit).2.answers = e.answers := by
  simp [recv, entered, answers, Journal.call]

@[simp] theorem answers_close (i : Sockets ω κ) (k : κ) (e : Env ω) :
    (e.close i k).answers = e.answers := by
  simp [close, answers, Journal.call]

@[simp] theorem answers_log (events : List LogEvent) (e : Env ω) :
    (e.log events).answers = e.answers := rfl

@[simp] theorem answers_count (metric : Metric) (by_ : Int) (e : Env ω) :
    (e.count metric by_).answers = e.answers := rfl

end Env

namespace Transport

/-- **Since `e` a send failed** or took nothing. -/
def Refused (e e' : Env ω) : Prop := ∃ l, e'.answers = e.answers ++ l ∧ ∃ a ∈ l, a ≠ .done

/-- **All that waits was offered**: since `e` everything was taken, or the socket took no more. -/
def Offered (e : Env ω) (o : Session σ × Env ω) : Prop := o.1.outbox = [] ∨ Refused e o.2

/-- **One write is enough**: it takes all that waits, if it takes something. -/
def Suffices (io : ByteStream (Env ω)) (s : Session σ) (e : Env ω) : Prop :=
  ∀ n, (s.writeTls io e).1 = .ok (n + 1) → n + 1 = s.pending

variable {i : Sockets ω κ} {k : κ} {s : Session σ} {e e' : Env ω}

theorem Refused.of_done (h : e'.answers = e.answers ++ [.done]) {e'' : Env ω}
    (hr : Refused e' e'') : Refused e e'' := by
  obtain ⟨l, hl, a, ha, hne⟩ := hr
  refine ⟨.done :: l, ?_, a, List.mem_cons_of_mem _ ha, hne⟩
  rw [hl, h, List.append_assoc, List.singleton_append]

theorem not_refused_of_done (h : e'.answers = e.answers ++ [.done]) : ¬Refused e e' := by
  rintro ⟨l, hl, a, ha, hne⟩
  obtain rfl := List.append_cancel_left (h.symm.trans hl)
  exact hne (List.mem_singleton.mp ha)

theorem refused_of_answer {a : SocketReply} (h : e'.answers = e.answers ++ [a]) (ha : a ≠ .done) :
    Refused e e' :=
  ⟨[a], h, a, List.mem_singleton_self a, ha⟩

/-! ### One write -/

/-- **What a write comes to** while records wait. -/
inductive WriteOn (i : Sockets ω κ) (k : κ) (s : Session σ) (e : Env ω) :
    Except IoError ℕ × Session σ × Env ω → Prop
  | refused {r s' e'} (hr : ∀ n, r ≠ .ok (n + 1)) (h : Refused e e') : WriteOn i k s e (r, s', e')
  /-- Octets of the oldest record are taken. -/
  | takes {record rest n e'} (hq : s.outbox = record :: rest) (hn : n < record.length)
    (h : e'.answers = e.answers ++ [.done]) : WriteOn i k s e (.ok (n + 1), s.sent (n + 1), e')

theorem pending_cons {record : Bytes} {rest : List Bytes} (hq : s.outbox = record :: rest) :
    s.pending = record.length + rest.flatten.length := by
  rw [Session.pending, hq, List.flatten_cons, List.length_append]

theorem writeOn_writeTls (hi : i.Honest) (hq : s.outbox ≠ []) :
    WriteOn i k s e (s.writeTls (Env.stream i k) e) := by
  obtain ⟨record, rest, hq⟩ := List.exists_cons_of_ne_nil hq
  have hans := Env.answers_send i k record e
  have hhon := hi k record e.world
  have hio : (Env.stream i k).write record e =
      ((e.send i k record).1.mapError (·.normalised .send), (e.send i k record).2) := rfl
  have hfst : (e.send i k record).1 = (i.send k record e.world).1 := rfl
  rw [← hfst] at hhon
  unfold Session.writeTls
  rw [hq]
  dsimp only
  rw [hio]
  rcases hs : e.send i k record with ⟨x | _ | n, e'⟩ <;> rw [hs] at hans hhon
  · refine .refused (fun n hn => ?_) (refused_of_answer hans ?_)
    · cases hn
    · simp [Env.replyOf]
  · -- nothing was taken
    have hr : Refused e e' := refused_of_answer hans (by simp [Env.replyOf])
    simp only [Except.mapError, Nat.zero_le, if_true]
    refine .refused (fun n hn => ?_) hr
    cases hn
  · have hn : n + 1 ≤ record.length := hhon _ rfl
    have hle : n + 1 ≤ s.pending := by
      rw [pending_cons hq]
      omega
    simp only [Except.mapError, if_pos hle]
    exact .takes hq hn hans

theorem writeOn_of_writeTls (hi : i.Honest) (hw : s.wantsWrite = true)
    {o : Except IoError ℕ × Session σ × Env ω} (h : s.writeTls (Env.stream i k) e = o) :
    WriteOn i k s e o := by
  rw [← h]
  exact writeOn_writeTls hi (by simpa [Session.wantsWrite] using hw)

/-! ### Writes and flushes -/

theorem consume_length_flatten (q : List Bytes) : Session.consume q.flatten.length q = [] := by
  induction q with
  | nil => rfl
  | cons d rest ih =>
    have hlt : ¬d.length + rest.flatten.length < d.length := by omega
    rw [Session.consume, List.flatten_cons, List.length_append, if_neg hlt,
      Nat.add_sub_cancel_left, ih]

theorem outbox_sent_eq_nil_iff {n : ℕ} (hn : n ≤ s.pending) :
    (s.sent n).outbox = [] ↔ n = s.pending := by
  have hp := Session.pending_sent hn
  constructor
  · intro hq
    have hz : (s.sent n).pending = 0 := by rw [Session.pending, hq]; rfl
    omega
  · rintro rfl
    exact consume_length_flatten s.outbox

/-- **A flush offers all that waits.** -/
theorem flush_offers (hi : i.Honest) (k : κ) (s : Session σ) (e : Env ω) :
    Offered e (s.flush (Env.stream i k) e).2 := by
  fun_induction Session.flush (Env.stream i k) s e with
  | case1 s e hw x s' e' h =>
    cases writeOn_of_writeTls hi hw h with
    | refused hr h => exact .inr h
  | case2 s e hw s' e' h =>
    cases writeOn_of_writeTls hi hw h with
    | refused hr h => exact .inr h
  | case3 s e hw n s' e' h ih =>
    cases writeOn_of_writeTls hi hw h with
    | refused hr h => exact absurd rfl (hr n)
    | takes hq hn h => exact ih.imp_right (.of_done h)
  | case4 s e hw =>
    left
    simpa [Session.wantsWrite] using hw

/-- **A single write offers all that waits exactly if it is enough.** -/
theorem writeTls_offers_iff (hi : i.Honest) (k : κ) (s : Session σ) (e : Env ω) :
    Offered e (s.writeTls (Env.stream i k) e).2 ↔ Suffices (Env.stream i k) s e := by
  by_cases hq : s.outbox = []
  · have hw : s.writeTls (Env.stream i k) e = (.ok 0, s, e) := Handshake.writeTls_of_empty hq
    rw [Suffices, hw]
    constructor
    · intro _ n hn
      cases hn
    · exact fun _ => .inl hq
  · have hwrite := writeOn_writeTls (k := k) (e := e) hi hq
    unfold Suffices
    generalize s.writeTls (Env.stream i k) e = o at hwrite ⊢
    cases hwrite with
    | refused hr h =>
      constructor
      · exact fun _ n hn => absurd hn (hr n)
      · exact fun _ => .inr h
    | @takes record rest n e' hq hn h =>
      have hle : n + 1 ≤ s.pending := by
        rw [pending_cons hq]
        omega
      have hsent := outbox_sent_eq_nil_iff hle
      constructor
      · rintro (ho | hr) m hm
        · cases hm
          exact hsent.mp ho
        · exact absurd hr (not_refused_of_done h)
      · intro hs
        exact .inl (hsent.mpr (hs n rfl))

/-- **Where a single write is enough, a flush does the same.** -/
theorem writeTls_eq_flush_iff (hi : i.Honest) (k : κ) (s : Session σ) (e : Env ω) :
    (s.writeTls (Env.stream i k) e).2 = (s.flush (Env.stream i k) e).2 ↔
      Suffices (Env.stream i k) s e := by
  constructor
  · intro heq
    rw [← writeTls_offers_iff hi, heq]
    exact flush_offers hi k s e
  · intro hs
    rcases h : s.writeTls (Env.stream i k) e with ⟨x | _ | n, s', e'⟩
    · rw [Session.flush_of_error h]
    · by_cases hq : s.outbox = []
      · rw [Session.flush_of_empty hq]
        rw [Handshake.writeTls_of_empty hq] at h
        cases h
        rfl
      · rw [Session.flush_of_zero hq h]
    · have hn : n + 1 = s.pending := hs n (by rw [h])
      rw [Session.flush_of_more h]
      cases writeOn_of_writeTls hi (Session.wantsWrite_of_more h) h with
      | refused hr h => exact absurd rfl (hr n)
      | takes hq hlt h =>
        have ho := (outbox_sent_eq_nil_iff (Nat.le_of_eq hn)).mpr hn
        rw [Session.flush_of_empty ho]

theorem suffices_iff_of_more (hi : i.Honest) {record : Bytes} {rest : List Bytes}
    (hq : s.outbox = record :: rest) (hrest : rest.flatten ≠ []) :
    Suffices (Env.stream i k) s e ↔ ∀ n, (s.writeTls (Env.stream i k) e).1 ≠ .ok (n + 1) := by
  have hpos : 0 < rest.flatten.length := List.length_pos_iff.mpr hrest
  have hwrite := writeOn_writeTls (k := k) (e := e) hi (by rw [hq]; exact List.cons_ne_nil _ _)
  unfold Suffices
  generalize s.writeTls (Env.stream i k) e = o at hwrite ⊢
  constructor
  · intro hs n hn
    have hall := hs n hn
    cases hwrite with
    | refused hr h => exact hr n hn
    | takes hq' hlt h =>
      cases hn
      obtain ⟨rfl, rfl⟩ := List.cons.inj (hq.symm.trans hq')
      rw [pending_cons hq] at hall
      omega
  · exact fun hno n hn => absurd hn (hno n)

/-! ### When the protocol fails -/

/-- **What the peer is offered when the protocol fails.** In a receive, all that waits: the call
ends with the failure behind a flush. In a handshake, all that waits exactly if one write is enough,
and exactly then it is as behind a flush. If more waits behind the first record, that is only where
the socket takes nothing; otherwise the alert stays in the queue. -/
theorem alert_offered_iff {b : Backing ω σ κ} (hb : b.sockets.Honest) (k : κ) :
    (∀ limit fuel s e n s₁ e₁ x s₂, Idle s →
      s.readTls b.protocol (Env.stream b.sockets k) e = (.ok n, s₁, e₁) →
      s₁.process b.protocol = (.error x, s₂) →
      ∃ s' e', recvLoop b k limit (fuel + 1) s e =
          some (.error (.stream (.tls x)), s', faulted "recv" (.tls x) e') ∧
        (s', e') = (s₂.flush (Env.stream b.sockets k) e₁).2 ∧ Offered e₁ (s', e')) ∧
    ∀ clock budget s₀ e₀ l s e n s₁ e₁ x s₂,
      Handshake.Reached b.protocol (Env.stream b.sockets k) clock budget s₀ e₀ l s e →
      s.outbox = [] → b.protocol.isHandshaking s.core = true →
      s.readTls b.protocol (Env.stream b.sockets k) e = (.ok (n + 1), s₁, e₁) →
      s₁.process b.protocol = (.error x, s₂) →
      ∃ s' e', (∀ fuel, l.length < fuel →
          Handshake.drive b.protocol (Env.stream b.sockets k) clock budget fuel s₀ e₀ =
            some (.error (.tls x), s', e')) ∧
        (Offered e₁ (s', e') ↔ Suffices (Env.stream b.sockets k) s₂ e₁) ∧
        ((s', e') = (s₂.flush (Env.stream b.sockets k) e₁).2 ↔
          Suffices (Env.stream b.sockets k) s₂ e₁) ∧
        ∀ record rest, s₂.outbox = record :: rest → rest.flatten ≠ [] →
          (Offered e₁ (s', e') ↔
            ∀ n, (s₂.writeTls (Env.stream b.sockets k) e₁).1 ≠ .ok (n + 1)) := by
  constructor
  · intro limit fuel s e n s₁ e₁ x s₂ hs h hp
    refine ⟨_, _, ?_, rfl, flush_offers hb k s₂ e₁⟩
    rw [recvLoop_succ_eq, turn_of_refuses hs h hp]
    rfl
  · intro clock budget s₀ e₀ l s e n s₁ e₁ x s₂ hr hq hh h hp
    have hstep := Handshake.step_eq_iff.mpr (.refuses hq hh h hp)
    have hoffer := writeTls_offers_iff hb k s₂ e₁
    refine ⟨_, _, ?_, hoffer, writeTls_eq_flush_iff hb k s₂ e₁, ?_⟩
    · intro fuel hlt
      refine Handshake.drive_of_ends hr (.failed hstep ?_) hlt
      simp [StreamFault.isRetryable, StreamFault.disposition]
    · intro record rest hq₂ hrest
      rw [← suffices_iff_of_more hb hq₂ hrest]
      exact hoffer

/-- A protocol that fails at the first octets, with a record ahead of its alert. -/
def refusing : Protocol Unit where
  start _ source := (.ok ((), []), source)
  isHandshaking _ := true
  room _ := (some 1, ())
  feed _ _ := ()
  process _ := ⟨(), [[20], [21]], [], false, some .decryptError⟩
  write _ _ b := ⟨(), b.length, []⟩
  closeNotify _ := ((), [])
  agreement _ := ⟨none, none, none, none⟩

/-- The socket takes all that it is offered, and the alert is not among it. -/
theorem alert_offered_iff_queued :
    Script.sockets.Honest ∧ ∃ e₁ s e',
      Session.readTls refusing (Env.stream Script.sockets ()) (.fresh () [])
        (Script.inEnv ⟨.const (.ok 16), .const (.ok [0]), []⟩) = (.ok 1, .fresh () [], e₁) ∧
      Handshake.drive refusing (Env.stream Script.sockets ()) (Script.backing refusing).clock.inEnv
        none 1 (.fresh () []) (Script.inEnv ⟨.const (.ok 16), .const (.ok [0]), []⟩) =
          some (.error (.tls .decryptError), s, e') ∧
      s.outbox = [[21]] ∧ e'.world.wire = [20] ∧ ¬Offered e₁ (s, e') := by
  let clock := (Script.backing refusing).clock.inEnv
  let e : Env Script := Script.inEnv ⟨.const (.ok 16), .const (.ok [0]), []⟩
  have hdrive : (Handshake.drive refusing (Env.stream Script.sockets ()) clock none 1 (.fresh () [])
      e).map (fun o => (o.2.1.outbox, o.2.2.world.wire)) = some ([[21]], [20]) := by decide
  obtain ⟨s, e', hd, hoffer, -⟩ :=
    (alert_offered_iff (b := Script.backing refusing) Script.honest ()).2 clock none (.fresh () [])
      e [] (.fresh () []) e 0 (.fresh () []) _ .decryptError _ .start rfl rfl rfl rfl
  have hfails : Handshake.drive refusing (Env.stream Script.sockets ()) clock none 1 (.fresh () [])
      e = some (.error (.tls .decryptError), s, e') := hd 1 Nat.one_pos
  rw [hfails] at hdrive
  obtain ⟨hq, hwire⟩ := Prod.mk.inj (Option.some.inj hdrive)
  refine ⟨Script.honest, _, s, e', rfl, hfails, hq, hwire, fun h => ?_⟩
  -- one octet was taken and two waited
  exact absurd (hoffer.mp h 0 rfl) (by decide)

end Transport

end SecureStream
