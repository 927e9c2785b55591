import SecureStream.Proofs.Retry.Program
import SecureStream.Proofs.Retry.Trail

/-! # One session behind another

Two sessions of one protocol, of which the first runs over a script with faults inserted
(`Trailing`): they agree on everything but the records that wait, their channels are one behind the
other, and so are the scripts of their receives. Flushes of either keep this
(`Trailing.flush_ahead`, `Trailing.flush_behind`), and after a send of the second the first comes
there by some sends (`send_trailing`). -/

namespace SecureStream

variable {σ : Type}

/-- **What is asked of a protocol.** Making room twice is making it once, and no record is empty. -/
structure Protocol.Steady (p : Protocol σ) : Prop where
  room : ∀ c, p.room (p.room c).2 = p.room c
  process : ∀ c, [] ∉ (p.process c).records
  write : ∀ c data, [] ∉ (p.write c 0 data).records

theorem steady_plain : Protocol.plain.Steady := by
  refine ⟨fun _ => rfl, fun _ => List.not_mem_nil, fun _ data => ?_⟩
  show [] ∉ if data = [] then [] else [data]
  split
  · exact List.not_mem_nil
  · next h => simpa [eq_comm] using h

/-- A connected transport over a session. -/
def Transport.upon (s : Session σ) : Transport σ Unit := ⟨.connected, some ⟨(), s⟩⟩

/-- **The session `s'` over the script `w'` trails `s` over `w`.** -/
structure Trailing (s' : Session σ) (w' : Script) (s : Session σ) (w : Script) : Prop where
  inbox : s'.inbox = s.inbox
  closed : s'.closed = s.closed
  ended : s'.ended = s.ended
  failure : s'.failure = s.failure
  recvs : ∃ n, Inserted n w.recvs w'.recvs
  channel : (s'.channel w').Trails (s.channel w)
  orderly : Script.Orderly w.sends
  full : [] ∉ s.outbox
  full' : [] ∉ s'.outbox

namespace Trailing

open Channel

variable {s s' s₁ : Session σ} {w w' : Script} {e e₁ : Env Script} {r : Except StreamFault Unit}

/-- **A flush of the session that is trailed.** After it the channel is calm. -/
theorem flush_ahead (h : Trailing s' w' s e.world)
    (hf : s.flush (Env.stream Script.sockets ()) e = (r, s₁, e₁))
    (hr : ∀ f, r = .error f → f.isRetryable) :
    Trailing s' w' s₁ e₁.world ∧ (s₁.channel e₁.world).Calm := by
  obtain ⟨hfl, hrecvs, hq⟩ := Session.flush_flushes h.full hf
  obtain ⟨hc, ho⟩ := hfl.calm h.orderly hr
  obtain ⟨n, hp⟩ := hfl.path hr
  obtain ⟨q, rfl⟩ : ∃ q, s₁ = { s with outbox := q } := ⟨_, Session.frame_of_flush hf⟩
  exact ⟨⟨h.inbox, h.closed, h.ended, h.failure, by rw [hrecvs]; exact h.recvs,
    h.channel.ahead hp, ho, hq, h.full'⟩, hc⟩

/-- **A flush of the session behind** does not fail for good. -/
theorem flush_behind (h : Trailing s e.world s' w') (hc : (s'.channel w').Calm)
    (hf : s.flush (Env.stream Script.sockets ()) e = (r, s₁, e₁)) :
    (∀ f, r = .error f → f.isRetryable) ∧ Trailing s₁ e₁.world s' w' := by
  obtain ⟨hfl, hrecvs, hq⟩ := Session.flush_flushes h.full' hf
  obtain ⟨hr, ht⟩ := h.channel.flush hc hfl
  obtain ⟨q, rfl⟩ : ∃ q, s₁ = { s with outbox := q } := ⟨_, Session.frame_of_flush hf⟩
  exact ⟨hr, h.inbox, h.closed, h.ended, h.failure, by rw [hrecvs]; exact h.recvs, ht, h.orderly,
    h.full, hq⟩

theorem accepting {p : Protocol σ} (hp : p.Steady) (h : Trailing s' w' s w)
    (hc : s'.core = s.core) (hq : s.outbox = []) (hq' : s'.outbox = []) (data : Bytes) :
    Trailing (s'.accepting p data) w' (s.accepting p data) w ∧
      s'.accepted p data = s.accepted p data ∧
      (s'.accepting p data).core = (s.accepting p data).core := by
  have hz := Session.pending_of_empty hq
  have hz' := Session.pending_of_empty hq'
  have hrec := hp.write s.core data
  unfold Session.accepting Session.accepted
  rw [hc, hz, hz', hq, hq', List.nil_append]
  refine ⟨⟨h.inbox, h.closed, h.ended, h.failure, h.recvs, ?_, h.orderly, hrec, hrec⟩, rfl, rfl⟩
  have ht := h.channel.add (p.write s.core 0 data).records
  unfold Session.channel Channel.add at ht
  rwa [hq, hq'] at ht

end Trailing

/-! ### Sending -/

namespace Transport

open Channel

variable {p : Protocol σ}

theorem send_upon {x : Bytes} (hx : x ≠ []) (b : Backing Script σ Unit) (s : Session σ)
    (e : Env Script) :
    (upon s).send b x e = ((sendOn b () x s e).1, upon (sendOn b () x s e).2.1,
      (sendOn b () x s e).2.2) := by
  have hx' : x.isEmpty = false := by simpa using hx
  unfold send
  simp only [upon, live, hx', Bool.false_eq_true, if_false]

theorem runs_send_once {x : Bytes} (hx : x ≠ []) {s s₁ : Session σ} {e e₁ : Env Script}
    {r : Except StreamFault Unit} (hq : s.outbox = []) (hs : s.failure = none)
    (hn : s.accepted p x = x.length)
    (hf : (s.accepting p x).flush (Env.stream Script.sockets ()) e = (r, s₁, e₁))
    (hr : ∀ f, r = .error f → f.isRetryable) :
    Runs (Script.backing p) (.send x .done) (upon s) e [] (upon s₁)
      (e₁.count .bytesSent (s.accepted p x)) := by
  have hsend := send_upon hx (Script.backing p) s e
  rw [sendOn_of_takes (Session.flush_of_empty hq) hs hf hr] at hsend
  refine .send hx hsend ?_
  have hdrop : x.drop (s.accepted (Script.backing p).protocol x) = [] := by
    rw [List.drop_eq_nil_iff]
    exact Nat.le_of_eq hn.symm
  rw [hdrop]
  exact .sent .done

/-- **Sends until nothing waits.** The session behind comes to a send whose first flush brings it to
where the other is. -/
theorem exists_flush (p : Protocol σ) {x : Bytes} (hx : x ≠ []) {s : Session σ} {w : Script}
    (hq : s.outbox = []) {N : ℕ} {s' : Session σ} {e' : Env Script}
    (h : Trailing s' e'.world s w) (hc : s'.core = s.core)
    (hN : Behind N (s'.channel e'.world) (s.channel w)) :
    ∃ s₀ e₀ s₁ e₁, s₀.flush (Env.stream Script.sockets ()) e₀ = (.ok (), s₁, e₁) ∧
      Trailing s₁ e₁.world s w ∧ s₁.core = s.core ∧
      ∀ {next d t₂ e₂}, Runs (Script.backing p) (.send x next) (upon s₀) e₀ d t₂ e₂ →
        Runs (Script.backing p) (.send x next) (upon s') e' d t₂ e₂ := by
  induction N using Nat.strong_induction_on generalizing s' e' with
  | _ N ih =>
    rcases hf : s'.flush (Env.stream Script.sockets ()) e' with ⟨f | u, s₁, e₁⟩
    · obtain ⟨hfl, -, -⟩ := Session.flush_flushes h.full' hf
      obtain ⟨hr, ht⟩ := h.flush_behind (.inl hq) hf
      have hc₁ := (Session.core_of_flush hf).trans hc
      obtain ⟨M, hM, hB⟩ := hN.flush_error hq hfl (hr f rfl)
      -- the send is told that nothing was accepted and is made again
      have hs : sendOn (Script.backing p) () x s' e' =
          (.ok 0, s₁, e₁.count (.retries "send") 1) := sendOn_of_waits hf (hr f rfl)
      have ht : Trailing s₁ (e₁.count (.retries "send") 1).world s w := ht
      obtain ⟨s₀, e₀, s₂, e₂, hf₂, ht₂, hc₂, hruns⟩ := ih M hM ht hc₁ hB
      refine ⟨s₀, e₀, s₂, e₂, hf₂, ht₂, hc₂, fun hrun => ?_⟩
      have hsend := send_upon hx (Script.backing p) s' e'
      rw [hs] at hsend
      exact .send hx hsend (hruns hrun)
    · obtain ⟨-, ht⟩ := h.flush_behind (.inl hq) hf
      exact ⟨s', e', s₁, e₁, hf, ht, (Session.core_of_flush hf).trans hc, fun hrun => hrun⟩

/-- **A send.** From behind the same is accepted, in some sends of which all but the last may be
told to wait. -/
theorem send_trailing (hp : p.Steady) {x : Bytes} (hx : x ≠ []) {s s' : Session σ}
    {e e' e₁ : Env Script} {n : ℕ} {t₁ : Transport σ Unit} (h : Trailing s' e'.world s e.world)
    (hc : s'.core = s.core) (hs : (upon s).send (Script.backing p) x e = (.ok n, t₁, e₁)) :
    ∃ s₁ s₁' e₁', t₁ = upon s₁ ∧ Trailing s₁' e₁'.world s₁ e₁.world ∧ s₁'.core = s₁.core ∧
      ∀ {next d t₂ e₂}, Runs (Script.backing p) (.send (x.drop n) next) (upon s₁') e₁' d t₂ e₂ →
        Runs (Script.backing p) (.send x next) (upon s') e' d t₂ e₂ := by
  rw [send_upon hx] at hs
  have ho := sendOn_spec (Script.backing p) () x s e
  generalize sendOn (Script.backing p) () x s e = o at ho hs
  cases ho with
  | fails _ _ => cases hs
  | refused _ _ => cases hs
  | spoilt _ _ _ _ => cases hs
  | waits hf hr =>
    simp only [Prod.mk.injEq, Except.ok.injEq] at hs
    obtain ⟨rfl, rfl, rfl⟩ := hs
    obtain ⟨ht, -⟩ := h.flush_ahead hf (by simpa using hr)
    exact ⟨_, s', e', rfl, ht, hc.trans (Session.core_of_flush hf).symm, fun hrun => hrun⟩
  | @takes s₁ e₁ r s₂ e₂ hf hx₁ hf₂ hr =>
    simp only [Prod.mk.injEq, Except.ok.injEq] at hs
    obtain ⟨rfl, rfl, rfl⟩ := hs
    obtain ⟨ht, -⟩ := h.flush_ahead hf (by simp)
    have hq : s₁.outbox = [] := Session.outbox_flush_of_ok hf
    obtain ⟨N, hN⟩ := ht.channel.behind hq
    obtain ⟨s₀, e₀, s₁', e₁', hf', ht', hc', hruns⟩ :=
      exists_flush p hx hq ht (hc.trans (Session.core_of_flush hf).symm) hN
    have hq' : s₁'.outbox = [] := Session.outbox_flush_of_ok hf'
    obtain ⟨hta, haccepted, hca⟩ := ht'.accepting hp hc' hq hq' x
    obtain ⟨ht₂, hcalm⟩ := hta.flush_ahead hf₂ hr
    rcases hf₂' : (s₁'.accepting p x).flush (Env.stream Script.sockets ()) e₁' with ⟨r', s₂', e₂'⟩
    obtain ⟨hr', ht₂'⟩ := ht₂.flush_behind hcalm hf₂'
    have hs' := sendOn_of_takes (b := Script.backing p) hf' (ht'.failure.trans hx₁) hf₂' hr'
    have hsend := send_upon hx (Script.backing p) s₀ e₀
    rw [hs'] at hsend
    refine ⟨s₂, s₂', e₂'.count .bytesSent (s₁'.accepted p x), rfl, ht₂', ?_, fun hrun => ?_⟩
    · exact (Session.core_of_flush hf₂').trans (hca.trans (Session.core_of_flush hf₂).symm)
    · refine hruns (.send hx hsend ?_)
      have heq : s₁'.accepted (Script.backing p).protocol x =
          s₁.accepted (Script.backing p).protocol x := haccepted
      rw [heq]
      rw [haccepted] at hrun
      exact hrun

end Transport

end SecureStream
