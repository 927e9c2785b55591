import SecureStream.Proofs.Scripted
import SecureStream.Proofs.Transport.Projection

/-! # What sends accept and what they report

A protocol takes note of the plaintext that its writer accepts (`Protocol.noting`); apart from that
it is the same protocol (`sends_forget`). Over a series of sends the note grows by what the callers
were told was accepted, unless a send fails after its writer has accepted plaintext
(`Transport.Spoils`): then it grows by plaintext that the caller is not told of.
`sends_noted_iff` says that these sends are the only difference. -/

namespace SecureStream

variable {ω σ κ : Type}

/-- **The protocol, with a note of the plaintext that its writer accepted.** -/
def Protocol.noting (p : Protocol σ) : Protocol (σ × Bytes) :=
  p.annotated
    { start := fun _ => []
      write := fun note b w => note ++ b.take w.accepted }

/-- The same sockets and clock with a protocol that takes notes. -/
def Backing.noting (b : Backing ω σ κ) : Backing ω (σ × Bytes) κ :=
  ⟨b.sockets, b.protocol.noting, b.clock⟩

namespace Session

/-- The session without its note. -/
def forget (s : Session (σ × Bytes)) : Session σ := s.mapCore Prod.fst

end Session

namespace Transport

variable {b : Backing ω σ κ}

/-- The transport without its note. -/
def forget (t : Transport (σ × Bytes) κ) : Transport σ κ :=
  ⟨t.state, t.session.map fun l => ⟨l.socket, l.tls.forget⟩⟩

/-- **The plaintext that the writer has accepted**, as far as there is a session. -/
def noted (t : Transport (σ × Bytes) κ) : Bytes := (t.session.map fun l => l.tls.core.2).getD []

/-- **A send with and without notes.** -/
theorem send_forget (b : Backing ω σ κ) (data : Bytes) (t : Transport (σ × Bytes) κ) (e : Env ω) :
    t.forget.send b data e =
      ((t.send b.noting data e).1, (t.send b.noting data e).2.1.forget,
        (t.send b.noting data e).2.2) :=
  send_project (b.protocol.annotated_projects _) data t e

/-! ### Sends that are not reported -/

/-- **The send accepts plaintext and fails then**: what waited was sent, the session is sound, and
the records of the plaintext cannot be sent. -/
def SpoilsOn (b : Backing ω σ κ) (socket : κ) (data : Bytes) (s : Session σ) (e : Env ω) : Prop :=
  ∃ s₁ e₁ f s₂ e₂, s.flush (Env.stream b.sockets socket) e = (.ok (), s₁, e₁) ∧
    s₁.failure = none ∧
    (s₁.accepting b.protocol data).flush (Env.stream b.sockets socket) e₁ = (.error f, s₂, e₂) ∧
    ¬f.isRetryable

/-- The same of a transport, which has to come to its session. -/
def Spoils (b : Backing ω σ κ) (data : Bytes) (t : Transport σ κ) (e : Env ω) : Prop :=
  ∃ l, t.live = .ok l ∧ data ≠ [] ∧ SpoilsOn b l.socket data l.tls e

/-- What a caller takes to be accepted of the plaintext that it sent. -/
def acknowledged (data : Bytes) : Except TransportError ℕ → Bytes
  | .ok n => data.take n
  | .error _ => []

/-- What became of the note in a send: `h` was noted. -/
structure Noted (spoils : Prop) (data : Bytes) (r : Except TransportError ℕ) (h : Bytes) :
    Prop where
  /-- The caller is told of what was noted. -/
  told : ¬spoils → h = acknowledged data r
  /-- Something was noted, and the caller is told of an error. -/
  untold : spoils → h ≠ [] ∧ acknowledged data r = []

theorem Noted.length_lt {spoils : Prop} {data : Bytes} {r : Except TransportError ℕ} {h : Bytes}
    (hn : Noted spoils data r h) (hs : spoils) : (acknowledged data r).length < h.length := by
  obtain ⟨hh, ha⟩ := hn.untold hs
  rw [ha]
  exact List.length_pos_iff.mpr hh

theorem Noted.length_le {spoils : Prop} {data : Bytes} {r : Except TransportError ℕ} {h : Bytes}
    (hn : Noted spoils data r h) : (acknowledged data r).length ≤ h.length := by
  by_cases hs : spoils
  · exact Nat.le_of_lt (hn.length_lt hs)
  · rw [hn.told hs]

theorem sendOn_noted (hp : ∀ c d, d ≠ [] → 0 < (b.protocol.write c 0 d).accepted) (socket : κ)
    {data : Bytes} (hd : data ≠ []) (s : Session (σ × Bytes)) (e : Env ω) :
    ∃ h, (sendOn b.noting socket data s e).2.1.core.2 = s.core.2 ++ h ∧
      Noted (SpoilsOn b.noting socket data s e) data (sendOn b.noting socket data s e).1 h := by
  have ho := sendOn_spec b.noting socket data s e
  generalize sendOn b.noting socket data s e = o at ho ⊢
  -- the note changes only where plaintext is accepted
  have quiet {s₁ : Session (σ × Bytes)} {e₁ : Env ω} {r : Except StreamFault Unit}
      (h : s.flush (Env.stream b.noting.sockets socket) e = (r, s₁, e₁)) :
      s₁.core.2 = s.core.2 ++ [] := by
    rw [Session.core_of_flush h, List.append_nil]
  have taken {s₁ s₂ : Session (σ × Bytes)} {e₁ e₂ : Env ω} {r : Except StreamFault Unit}
      (h : s.flush (Env.stream b.noting.sockets socket) e = (.ok (), s₁, e₁))
      (h₂ : (s₁.accepting b.noting.protocol data).flush (Env.stream b.noting.sockets socket) e₁ =
        (r, s₂, e₂)) :
      s₂.core.2 = s.core.2 ++ data.take (s₁.accepted b.noting.protocol data) := by
    rw [Session.core_of_flush h₂, ← Session.core_of_flush h]
    rfl
  cases ho with
  | waits h hf =>
    refine ⟨[], quiet h, fun _ => rfl, ?_⟩
    rintro ⟨_, _, _, _, _, h', -⟩
    simp [h] at h'
  | fails h hf =>
    refine ⟨[], quiet h, fun _ => rfl, ?_⟩
    rintro ⟨_, _, _, _, _, h', -⟩
    simp [h] at h'
  | refused h hx =>
    refine ⟨[], quiet h, fun _ => rfl, ?_⟩
    rintro ⟨_, _, _, _, _, h', hx', -⟩
    simp only [h, Prod.mk.injEq, true_and] at h'
    obtain ⟨rfl, -⟩ := h'
    rw [hx] at hx'
    cases hx'
  | takes h hx h₂ hr =>
    refine ⟨_, taken h h₂, fun _ => rfl, ?_⟩
    rintro ⟨_, _, f, _, _, h', -, h₂', hf⟩
    simp only [h, Prod.mk.injEq, true_and] at h'
    obtain ⟨rfl, rfl⟩ := h'
    rw [h₂] at h₂'
    exact absurd (hr f (Prod.mk.inj h₂').1) hf
  | @spoilt s₁ e₁ f s₂ e₂ h hx h₂ hf =>
    refine ⟨_, taken h h₂, fun hs => absurd ⟨_, _, _, _, _, h, hx, h₂, hf⟩ hs, fun _ => ⟨?_, rfl⟩⟩
    have hz := Session.pending_of_empty (Session.outbox_flush_of_ok h)
    have hpos : 0 < s₁.accepted b.noting.protocol data := by
      unfold Session.accepted
      rw [hz]
      exact hp s₁.core.1 data hd
    rw [ne_eq, List.take_eq_nil_iff, not_or]
    exact ⟨by omega, hd⟩

theorem send_noted (hp : ∀ c d, d ≠ [] → 0 < (b.protocol.write c 0 d).accepted) (data : Bytes)
    (t : Transport (σ × Bytes) κ) (e : Env ω) :
    ∃ h, (t.send b.noting data e).2.1.noted = t.noted ++ h ∧
      Noted (Spoils b.noting data t e) data (t.send b.noting data e).1 h := by
  unfold send
  rcases hl : t.live with x | l
  · refine ⟨[], (List.append_nil _).symm, fun _ => rfl, ?_⟩
    rintro ⟨l, hl', -⟩
    rw [hl] at hl'
    cases hl'
  by_cases hd : data = []
  · subst hd
    exact ⟨[], (List.append_nil _).symm, fun _ => rfl, fun ⟨_, _, hd, _⟩ => absurd rfl hd⟩
  have hn : t.noted = l.tls.core.2 := by
    obtain ⟨state, session⟩ := t
    cases state <;> cases session <;> simp_all [live, noted]
  obtain ⟨h, hh, hs⟩ := sendOn_noted hp l.socket hd l.tls e
  simp only [List.isEmpty_iff, hd, if_false]
  refine ⟨h, by rw [hn]; exact hh, fun hns => hs.told fun hso => hns ⟨l, hl, hd, hso⟩, ?_⟩
  rintro ⟨l', hl', -, hso⟩
  rw [hl] at hl'
  obtain rfl := Except.ok.inj hl'
  exact hs.untold hso

/-! ### Series of sends -/

/-- **One call of a series**: what was to be sent, where, and what came of it. -/
structure Sent (ω σ κ : Type) where
  data : Bytes
  transport : Transport σ κ
  env : Env ω
  result : Except TransportError ℕ

/-- **Sends one piece of plaintext after another**, whatever becomes of them. -/
def sends (b : Backing ω σ κ) :
    List Bytes → Transport σ κ → Env ω → List (Sent ω σ κ) × Transport σ κ × Env ω
  | [], t, e => ([], t, e)
  | data :: rest, t, e =>
    let (r, t', e') := t.send b data e
    let (calls, o) := sends b rest t' e'
    (⟨data, t, e, r⟩ :: calls, o)

theorem sends_cons (b : Backing ω σ κ) (d : Bytes) (rest : List Bytes) (t : Transport σ κ)
    (e : Env ω) :
    sends b (d :: rest) t e =
      (⟨d, t, e, (t.send b d e).1⟩ :: (sends b rest (t.send b d e).2.1 (t.send b d e).2.2).1,
        (sends b rest (t.send b d e).2.1 (t.send b d e).2.2).2) := rfl

/-- What the caller takes to be accepted in a series. -/
def acknowledgedBy (calls : List (Sent ω σ κ)) : Bytes :=
  (calls.map fun c => acknowledged c.data c.result).flatten

/-- **A series with and without notes**: the results and the environment are the same. -/
theorem sends_forget (b : Backing ω σ κ) (data : List Bytes) (t : Transport (σ × Bytes) κ)
    (e : Env ω) :
    (sends b data t.forget e).1.map Sent.result = (sends b.noting data t e).1.map Sent.result ∧
      (sends b data t.forget e).2 =
        ((sends b.noting data t e).2.1.forget, (sends b.noting data t e).2.2) := by
  induction data generalizing t e with
  | nil => exact ⟨rfl, rfl⟩
  | cons d rest ih =>
    obtain ⟨hr, ho⟩ := ih (t.send b.noting d e).2.1 (t.send b.noting d e).2.2
    simp only [sends_cons, send_forget, List.map_cons, hr, ho, and_self]

theorem acknowledgedBy_cons (c : Sent ω σ κ) (calls : List (Sent ω σ κ)) :
    acknowledgedBy (c :: calls) = acknowledged c.data c.result ++ acknowledgedBy calls := rfl

/-- **A send of a series spoils.** -/
def Sent.Spoilt (b : Backing ω σ κ) (c : Sent ω σ κ) : Prop := Spoils b c.data c.transport c.env

theorem sends_told (hp : ∀ c d, d ≠ [] → 0 < (b.protocol.write c 0 d).accepted) {data : List Bytes}
    {t : Transport (σ × Bytes) κ} {e : Env ω}
    (hs : ∀ c ∈ (sends b.noting data t e).1, ¬c.Spoilt b.noting) :
    (sends b.noting data t e).2.1.noted =
      t.noted ++ acknowledgedBy (sends b.noting data t e).1 := by
  induction data generalizing t e with
  | nil => exact (List.append_nil _).symm
  | cons d rest ih =>
    obtain ⟨h, hh, hn⟩ := send_noted hp d t e
    rw [sends_cons, List.forall_mem_cons] at hs
    rw [sends_cons, ih hs.2, hh, hn.told hs.1, acknowledgedBy_cons, List.append_assoc]

theorem length_acknowledgedBy_le (hp : ∀ c d, d ≠ [] → 0 < (b.protocol.write c 0 d).accepted)
    (data : List Bytes) (t : Transport (σ × Bytes) κ) (e : Env ω) :
    t.noted.length + (acknowledgedBy (sends b.noting data t e).1).length ≤
      (sends b.noting data t e).2.1.noted.length := by
  induction data generalizing t e with
  | nil => exact le_rfl
  | cons d rest ih =>
    obtain ⟨h, hh, hn⟩ := send_noted hp d t e
    have hrest := ih (t.send b.noting d e).2.1 (t.send b.noting d e).2.2
    have hle := hn.length_le
    rw [hh, List.length_append] at hrest
    simp only [sends_cons, acknowledgedBy_cons, List.length_append]
    omega

theorem length_acknowledgedBy_lt (hp : ∀ c d, d ≠ [] → 0 < (b.protocol.write c 0 d).accepted)
    {data : List Bytes} {t : Transport (σ × Bytes) κ} {e : Env ω}
    (hs : ∃ c ∈ (sends b.noting data t e).1, c.Spoilt b.noting) :
    t.noted.length + (acknowledgedBy (sends b.noting data t e).1).length <
      (sends b.noting data t e).2.1.noted.length := by
  induction data generalizing t e with
  | nil =>
    obtain ⟨c, hc, -⟩ := hs
    cases hc
  | cons d rest ih =>
    obtain ⟨h, hh, hn⟩ := send_noted hp d t e
    obtain ⟨c, hc, hs⟩ := hs
    rw [sends_cons] at hc
    simp only [sends_cons, acknowledgedBy_cons, List.length_append]
    rcases List.mem_cons.mp hc with rfl | hc
    · have hrest := length_acknowledgedBy_le hp rest (t.send b.noting d e).2.1
        (t.send b.noting d e).2.2
      have hlt := hn.length_lt hs
      rw [hh, List.length_append] at hrest
      omega
    · have hrest := ih ⟨c, hc, hs⟩
      have hle := hn.length_le
      rw [hh, List.length_append] at hrest
      omega

/-- **The account of a series of sends.** Taking notes changes neither a result nor the environment,
and what the writer has accepted in the end is exactly what the caller was told of, call by call, if
and only if no send of the series fails after its writer has accepted plaintext. -/
theorem sends_noted_iff (hp : ∀ c d, d ≠ [] → 0 < (b.protocol.write c 0 d).accepted)
    (data : List Bytes) (t : Transport (σ × Bytes) κ) (e : Env ω) :
    ((sends b data t.forget e).1.map Sent.result =
        (sends b.noting data t e).1.map Sent.result ∧
      (sends b data t.forget e).2 =
        ((sends b.noting data t e).2.1.forget, (sends b.noting data t e).2.2)) ∧
    ((sends b.noting data t e).2.1.noted =
        t.noted ++ acknowledgedBy (sends b.noting data t e).1 ↔
      ∀ c ∈ (sends b.noting data t e).1, ¬c.Spoilt b.noting) := by
  refine ⟨sends_forget b data t e, fun heq => ?_, sends_told hp⟩
  by_contra hs
  push Not at hs
  have hlt := length_acknowledgedBy_lt hp hs
  rw [heq, List.length_append] at hlt
  exact lt_irrefl _ hlt

/-- Plaintext whose first send fails and which is sent again is accepted twice and told of once. -/
theorem sends_noted_resent :
    (∀ (c : Bytes) (d : Bytes), d ≠ [] →
      0 < ((Script.backing Protocol.plain).protocol.write c 0 d).accepted) ∧
    ∃ (t : Transport (Bytes × Bytes) Unit) (e : Env Script),
      (sends (Script.backing Protocol.plain).noting [[97], [97]] t e).2.1.noted ≠
        t.noted ++ acknowledgedBy
          (sends (Script.backing Protocol.plain).noting [[97], [97]] t e).1 := by
  have hp : ∀ (c : Bytes) (d : Bytes), d ≠ [] →
      0 < ((Script.backing Protocol.plain).protocol.write c 0 d).accepted :=
    fun c d hd => List.length_pos_iff.mpr hd
  let s : Session (Bytes × Bytes) := .fresh ([], []) []
  let t : Transport (Bytes × Bytes) Unit := ⟨.connected, some ⟨(), s⟩⟩
  let e : Env Script :=
    Script.inEnv ⟨.cons (.error (.plain .other)) (.const (.ok 1)), .const (.ok []), []⟩
  have hf : (s.accepting Protocol.plain.noting [97]).flush (Env.stream Script.sockets ()) e =
      (.error (.ofIoError (.plain .other) .send), _, _) := Session.flush_of_error rfl
  have hspoils : Spoils (Script.backing Protocol.plain).noting [97] t e :=
    ⟨⟨(), s⟩, rfl, by simp, s, e, _, _, _, Session.flush_of_empty rfl, rfl, hf, by decide⟩
  refine ⟨hp, t, e, fun heq => ?_⟩
  have hs := (sends_noted_iff hp [[97], [97]] t e).2.mp heq
  rw [sends_cons] at hs
  exact hs _ List.mem_cons_self hspoils

end Transport

end SecureStream
