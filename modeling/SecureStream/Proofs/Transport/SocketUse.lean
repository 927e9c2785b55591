import SecureStream.Proofs.Transport.FirstFailure
import SecureStream.Proofs.Transport.Uses

/-! # How a transport uses its sockets

In every run the calls on the socket of a live session are those of a socket in use, and the calls
on every other socket are those of a spent one (`Tidy`): one operation keeps this (`run_tidy`), and
so does a run (`tidy_of_runs`). Plaintext is moved on the socket of a session and on no other
(`run_exchanging`). `sockets_follow` puts it together. -/

namespace SecureStream.Transport

variable {ω σ κ : Type} {b : Backing ω σ κ} {host : String} {port : ℕ} {c : Credentials}
  {config : TransportConfig} {fuel : ℕ}

/-! ### Exchanges -/

/-- Of an operation that moves plaintext, how much there is to send or how much room for what comes.
A buffer that grows has room for a chunk. -/
def Operation.room? : Operation → Option ℕ
  | .send data => some data.length
  | .recv limit => some limit
  | .recvBuffer _ => some recvChunk
  | _ => none

section
variable {t t' : Transport σ κ} {e e' : Env ω}

/-- **What moving plaintext does to a session.** -/
inductive ExchangeOn (b : Backing ω σ κ) (socket : κ) (s : Session σ) (e : Env ω) :
    Session σ → Env ω → Prop
  | send (data) :
    ExchangeOn b socket s e (sendOn b socket data s e).2.1 (sendOn b socket data s e).2.2
  | recv {limit fuel r s' e'} (h : recvOn b socket limit fuel s e = some (r, s', e')) :
    ExchangeOn b socket s e s' e'

/-- **What moving `n` octets of plaintext does to a transport**: nothing, or it has a session and
something to move. -/
inductive Exchanging (b : Backing ω σ κ) (n : ℕ) (t : Transport σ κ) (e : Env ω) :
    Transport σ κ → Env ω → Prop
  | still : Exchanging b n t e t e
  | on {l s e'} (hl : t.live = .ok l) (hn : n ≠ 0) (h : ExchangeOn b l.socket l.tls e s e') :
    Exchanging b n t e { t with session := some { l with tls := s } } e'

theorem send_exchanging (b : Backing ω σ κ) (data : Bytes) (t : Transport σ κ) (e : Env ω) :
    Exchanging b data.length t e (t.send b data e).2.1 (t.send b data e).2.2 := by
  unfold send
  split
  · exact .still
  · next l hl =>
    split
    · exact .still
    · next hd => exact .on hl (by simpa using hd) (.send data)

theorem recv_exchanging {limit : ℕ} {r : Except TransportError Bytes}
    (hr : t.recv b limit fuel e = some (r, t', e')) : Exchanging b limit t e t' e' := by
  unfold recv at hr
  split at hr
  · cases hr
    exact .still
  · next l hl =>
    split at hr
    · cases hr
      exact .still
    · next hd =>
      obtain ⟨⟨r', s, e₁⟩, ho, he⟩ := Option.map_eq_some_iff.mp hr
      cases he
      exact .on hl hd (.recv ho)

theorem run_exchanging {op : Operation} {n : ℕ} {a : Answer} (hn : op.room? = some n)
    (ho : op.run b fuel t e = some (a, t', e')) : Exchanging b n t e t' e' := by
  cases op with
  | connect | connectWith | disconnect => cases hn
  | send data =>
    cases hn
    cases ho
    exact send_exchanging b data t e
  | recv limit =>
    cases hn
    obtain ⟨⟨r, t₁, e₁⟩, hr, hp⟩ := Option.map_eq_some_iff.mp ho
    cases hp
    exact recv_exchanging hr
  | recvBuffer buffer =>
    cases hn
    obtain ⟨⟨r, buffer', t₁, e₁⟩, hr, hp⟩ := Option.map_eq_some_iff.mp ho
    cases hp
    obtain ⟨⟨x | data, t₂, e₂⟩, hr', hp'⟩ := Option.map_eq_some_iff.mp hr
    all_goals
      cases hp'
      exact recv_exchanging hr'

theorem exchangeOn_keeps {R : Env ω → Env ω → Prop} {socket : κ} {s s' : Session σ}
    (hk : Env.Keeps b.sockets socket R) (h : ExchangeOn b socket s e s' e') : R e e' := by
  cases h with
  | send data => exact sendOn_keeps hk data s e
  | recv hr => exact recvOn_keeps hk hr

/-- **What an exchange leaves alone.** -/
structure Exchanged (n : ℕ) (t : Transport σ κ) (e : Env ω) (t' : Transport σ κ) (e' : Env ω) :
    Prop where
  state : t'.state = t.state
  adds : Env.Adds Env.Exchanges e e'
  still : t.state ≠ .connected ∨ n = 0 → t' = t ∧ e' = e

theorem Exchanging.exchanged {n : ℕ} (h : Exchanging b n t e t' e') : Exchanged n t e t' e' := by
  cases h with
  | still => exact ⟨rfl, .of_calls_eq rfl, fun _ => ⟨rfl, rfl⟩⟩
  | @on l s e' hl hn hx =>
    have hk := Env.adds_keeps (P := Env.Exchanges) b.sockets l.socket (.inl rfl) (.inr rfl)
    refine ⟨rfl, exchangeOn_keeps hk hx, ?_⟩
    rintro (hs | h0)
    · exact absurd (live_eq_ok_iff.mp hl).1 hs
    · exact absurd h0 hn

end

/-! ### All sockets of a transport -/

/-- What a connect is asked for. -/
def Operation.target? : Operation → Option (String × ℕ × TransportConfig)
  | .connect host port _ recvTimeout sendTimeout =>
    some (host, port, configOf recvTimeout sendTimeout)
  | .connectWith host port _ config => some (host, port, config)
  | _ => none

/-- The socket with number `n` was opened by a connect that was asked for this. -/
def OpenedBy (h : List (Ran (ω × List Use))) (n : ℕ) (host : String) (port : ℕ)
    (config : TransportConfig) : Prop :=
  ∃ r ∈ h, r.operation.target? = some (host, port, config) ∧
    r.before.uses.length ≤ n ∧ n < r.after.uses.length

/-- The calls on the socket with number `n` follow the pattern `P` for the connect that opened
it. -/
def Follows (P : String → ℕ → TransportConfig → List SocketCall → Prop)
    (h : List (Ran (ω × List Use))) (n : ℕ) (e : Env (ω × List Use)) : Prop :=
  ∃ host port config, OpenedBy h n host port config ∧ P host port config (usesOf n e.uses)

/-- **What holds of the sockets of a transport**: the one of its session is in use, every other is
spent, and the next number is a new one. -/
structure Tidy (h : List (Ran (ω × List Use))) (t : Transport (σ × Bytes) (κ × ℕ))
    (e : Env (ω × List Use)) : Prop where
  numbered : ∀ u ∈ e.uses, ∀ n, u.socket = some n → n < e.uses.length
  live : ∀ l, t.session = some l → Follows InUse h l.socket.2 e
  rest : ∀ n, (∀ l, t.session = some l → l.socket.2 ≠ n) →
    usesOf n e.uses = [] ∨ Follows Spent h n e

variable {h h' : List (Ran (ω × List Use))} {t t' : Transport (σ × Bytes) (κ × ℕ)}
  {e e' : Env (ω × List Use)}

theorem Follows.mono {P : String → ℕ → TransportConfig → List SocketCall → Prop} {n : ℕ}
    (hf : Follows P h n e) (hh : h ⊆ h') (he : usesOf n e'.uses = usesOf n e.uses) :
    Follows P h' n e' := by
  obtain ⟨host, port, config, ⟨r, hr, ht⟩, hp⟩ := hf
  exact ⟨host, port, config, ⟨r, hh hr, ht⟩, by rwa [he]⟩

theorem Tidy.lt_of_uses (ht : Tidy h t e) {n : ℕ} (hn : usesOf n e.uses ≠ []) :
    n < e.uses.length := by
  by_contra hlt
  refine hn (usesOf_eq_nil fun u hu hs => hlt (ht.numbered u hu n hs))

theorem Tidy.usesOf_next (ht : Tidy h t e) : usesOf e.uses.length e.uses = [] := by
  by_contra hu
  exact Nat.lt_irrefl _ (ht.lt_of_uses hu)

theorem Tidy.lt_of_live (ht : Tidy h t e) {l : Live (σ × Bytes) (κ × ℕ)} (hl : t.session = some l) :
    l.socket.2 < e.uses.length := by
  obtain ⟨host, port, config, -, hu⟩ := ht.live l hl
  exact ht.lt_of_uses hu.ne_nil

theorem Tidy.mono (ht : Tidy h t e) (hh : h ⊆ h') (hs : t'.session = t.session)
    (he : e'.uses = e.uses) : Tidy h' t' e' where
  numbered := by rw [he]; exact ht.numbered
  live l hl := (ht.live l (by rwa [← hs])).mono hh (by rw [he])
  rest n hn := by
    rw [hs] at hn
    rw [he]
    exact (ht.rest n hn).imp_right fun hf => hf.mono hh (by rw [he])

theorem Tidy.numbered_of_calls (ht : Tidy h t e) {n : ℕ} {l : List SocketCall}
    (hc : Env.Calls n l e e') (hn : n < e'.uses.length) :
    ∀ u ∈ e'.uses, ∀ m, u.socket = some m → m < e'.uses.length := by
  have hle := hc.length_le
  obtain ⟨x, hx, hs, -⟩ := hc
  intro u hu m hm
  rw [hx] at hu
  rcases List.mem_append.mp hu with hu | hu
  · exact Nat.lt_of_lt_of_le (ht.numbered u hu m hm) hle
  · rw [hs u hu] at hm
    exact Option.some.inj hm ▸ hn

theorem Tidy.through (ht : Tidy h t e) {l l' : Live (σ × Bytes) (κ × ℕ)} (hl : t.session = some l)
    (he : Env.Through l.socket.2 e e') (hl' : t'.session = some l') (hs : l'.socket = l.socket) :
    Tidy h t' e' := by
  obtain ⟨x, hc, hx⟩ := he
  refine ⟨ht.numbered_of_calls hc ((ht.lt_of_live hl).trans_le hc.length_le), fun l₁ h₁ => ?_,
    fun n hn => ?_⟩
  · obtain rfl : l' = l₁ := Option.some.inj (hl'.symm.trans h₁)
    obtain ⟨host, port, config, ho, hu⟩ := ht.live l hl
    rw [hs]
    exact ⟨host, port, config, ho, by rw [hc.usesOf_same]; exact hu.append hx⟩
  · have hne : n ≠ l.socket.2 := fun he => hn l' hl' (by rw [hs, he])
    have hr := ht.rest n fun l₁ h₁ => by
      obtain rfl : l = l₁ := Option.some.inj (hl.symm.trans h₁)
      exact hne.symm
    rw [hc.usesOf_other hne]
    exact hr.imp_right fun hf => hf.mono (List.Subset.refl _) (hc.usesOf_other hne)

theorem Tidy.closed (ht : Tidy h t e) {l : Live (σ × Bytes) (κ × ℕ)} (hl : t.session = some l)
    {x : List SocketCall} (hc : Env.Calls l.socket.2 (x ++ [closing]) e e')
    (hx : ∀ c ∈ x, Env.Exchanges c.request) (hn : t'.session = none) : Tidy h t' e' := by
  refine ⟨ht.numbered_of_calls hc ((ht.lt_of_live hl).trans_le hc.length_le), fun l₁ h₁ => ?_,
    fun n _ => ?_⟩
  · rw [hn] at h₁
    cases h₁
  · by_cases hs : n = l.socket.2
    · obtain ⟨host, port, config, ho, hu⟩ := ht.live l hl
      rw [hs]
      refine .inr ⟨host, port, config, ho, ?_⟩
      rw [hc.usesOf_same, ← List.append_assoc]
      exact .used (hu.append hx)
    · have hr := ht.rest n fun l₁ h₁ => by
        obtain rfl : l = l₁ := Option.some.inj (hl.symm.trans h₁)
        exact Ne.symm hs
      rw [hc.usesOf_other hs]
      exact hr.imp_right fun hf => hf.mono (List.Subset.refl _) (hc.usesOf_other hs)

theorem Tidy.unopened (ht : Tidy h t e) {u : Use} (hu : u.socket = none)
    (he : e'.uses = e.uses ++ [u]) : Tidy h t e' := by
  have hs (n : ℕ) : usesOf n e'.uses = usesOf n e.uses := by
    have hz : usesOf n [u] = [] := usesOf_eq_nil fun v hv => by
      rw [List.mem_singleton.mp hv, hu]
      exact nofun
    rw [he, usesOf_append, hz, List.append_nil]
  refine ⟨fun v hv n hn => ?_, fun l hl => ?_, fun n hn => ?_⟩
  · rw [he] at hv ⊢
    rw [List.length_append]
    rcases List.mem_append.mp hv with hv | hv
    · exact Nat.lt_add_right _ (ht.numbered v hv n hn)
    · rw [List.mem_singleton.mp hv, hu] at hn
      cases hn
  · exact (ht.live l hl).mono (List.Subset.refl _) (hs _)
  · rw [hs]
    exact (ht.rest n hn).imp_right fun hf => hf.mono (List.Subset.refl _) (hs n)

theorem Tidy.opened (ht : Tidy h t e) (hn : t.session = none) {l : List SocketCall}
    (hc : Env.Calls e.uses.length l e e') (hh : h ⊆ h')
    (ho : OpenedBy h' e.uses.length host port config)
    (hl : (∃ k s, t'.session = some ⟨(k, e.uses.length), s⟩ ∧ InUse host port config l) ∨
      t'.session = none ∧ Spent host port config l) : Tidy h' t' e' := by
  have hne : l ≠ [] := by
    rcases hl with ⟨_, _, _, hu⟩ | ⟨-, hs⟩
    · exact hu.ne_nil
    · exact hs.ne_nil
  have hcalls : usesOf e.uses.length e'.uses = l := by
    rw [hc.usesOf_same, ht.usesOf_next, List.nil_append]
  refine ⟨ht.numbered_of_calls hc (hc.length_lt hne), fun l₁ h₁ => ?_, fun n hm => ?_⟩
  · rcases hl with ⟨k, s, hs, hu⟩ | ⟨hs, -⟩
    · obtain rfl := Option.some.inj (hs.symm.trans h₁)
      exact ⟨host, port, config, ho, by rw [hcalls]; exact hu⟩
    · rw [hs] at h₁
      cases h₁
  · by_cases hs : n = e.uses.length
    · subst hs
      rcases hl with ⟨k, s, hl, -⟩ | ⟨-, hs⟩
      · exact absurd rfl (hm _ hl)
      · exact .inr ⟨host, port, config, ho, by rw [hcalls]; exact hs⟩
    · have hr := ht.rest n fun l₁ h₁ => by
        rw [hn] at h₁
        cases h₁
      rw [hc.usesOf_other hs]
      exact hr.imp_right fun hf => hf.mono hh (hc.usesOf_other hs)

/-! ### Operations keep it -/

/-- **What a disconnect calls**: nothing, or the socket of the session is closed in the end. -/
theorem disconnect_calls (t : Transport (σ × Bytes) (κ × ℕ)) (e : Env (ω × List Use)) :
    (t.disconnect b.observed e).1.session = t.session ∧
        (t.disconnect b.observed e).2.uses = e.uses ∨
      ∃ l x, t.session = some l ∧ (t.disconnect b.observed e).1.session = none ∧
        Env.Calls l.socket.2 (x ++ [closing]) e (t.disconnect b.observed e).2 ∧
        ∀ c ∈ x, Env.Exchanges c.request := by
  have hr (r : Except StreamFault Unit) (e : Env (ω × List Use)) :
      (reportClose r e).uses = e.uses := by
    unfold reportClose
    split
    · rfl
    · split <;> rfl
  unfold disconnect
  split
  · exact .inl ⟨rfl, rfl⟩
  · split
    · next hn => exact .inl ⟨hn.symm, rfl⟩
    · next l hl =>
      have hk := Env.through_keeps b.sockets l.socket.1 l.socket.2
      obtain ⟨x, hc, hx⟩ := Session.flush_keeps hk.stream (l.tls.closeNotify b.observed.protocol) e
      refine .inr ⟨l, x, hl, rfl, hc.trans ⟨[⟨some l.socket.2, closing, []⟩], ?_, by simp, rfl⟩, hx⟩
      exact congrArg (· ++ _) (hr _ _)

theorem disconnect_tidy (ht : Tidy h t e) :
    Tidy h (t.disconnect b.observed e).1 (t.disconnect b.observed e).2 := by
  rcases disconnect_calls (b := b) t e with ⟨hs, he⟩ | ⟨l, x, hl, hn, hc, hx⟩
  · exact ht.mono (List.Subset.refl _) hs he
  · exact ht.closed hl hc hx hn

theorem vacate_tidy (hs : t.Settled) (ht : Tidy h t e) :
    Tidy h (t.vacate b.observed (attempted e)).1 (t.vacate b.observed (attempted e)).2 ∧
      (t.vacate b.observed (attempted e)).1.session = none ∧
      e.uses.length ≤ (t.vacate b.observed (attempted e)).2.uses.length := by
  have hn := (vacate_spec (b := b.observed) hs (attempted e)).1.session_eq_none
    (vacate_spec (b := b.observed) hs (attempted e)).2.1
  refine ⟨?_, hn, ?_⟩
  · unfold vacate
    split
    · exact disconnect_tidy (ht.mono (List.Subset.refl _) rfl rfl)
    · exact ht.mono (List.Subset.refl _) rfl rfl
  · unfold vacate
    split
    · rcases disconnect_calls (b := b) t ((attempted e).log _) with ⟨-, he⟩ | ⟨_, _, -, -, hc, -⟩
      · rw [he]
        rfl
      · exact hc.length_le
    · rfl

/-- **A connect** opens one socket, and that is in use in the end or spent. -/
theorem connect_tidy (hs : t.Settled) (ht : Tidy h t e) {r : Except TransportError Unit}
    (hc : t.connect b.observed host port c config fuel e = some (r, t', e')) {op : Operation}
    (ho : op.target? = some (host, port, config)) : Tidy (h ++ [⟨op, e, e'⟩]) t' e' := by
  obtain ⟨hv, hn, hle⟩ := vacate_tidy (b := b) hs ht
  have hh : h ⊆ h ++ [⟨op, e, e'⟩] := List.subset_append_left _ _
  have opened (hlt : (t.vacate b.observed (attempted e)).2.uses.length < e'.uses.length) :
      OpenedBy (h ++ [⟨op, e, e'⟩]) (t.vacate b.observed (attempted e)).2.uses.length host port
        config :=
    ⟨⟨op, e, e'⟩, List.mem_append_right _ (List.mem_singleton_self _), ho, hle, hlt⟩
  cases (connect_iff hs).mp hc with
  | refused _ => exact ht.mono hh rfl rfl
  | @fails p f x f' _ hp hf =>
    rcases passed_calls hp with ⟨rfl, rfl⟩ | ⟨k, l, hk, hl, hq⟩
    · obtain ⟨u, hu, he⟩ := unopened_use hf
      have hu' : Tidy h allocated f' := (hv.unopened hu he).mono (List.Subset.refl _) hn.symm rfl
      exact hu'.mono hh rfl rfl
    · obtain ⟨l', hc', -, hsp⟩ := advance_calls hk hq hf
      have hl' : Env.Calls _ _ _ (reported x (p.release b.observed f')) :=
        release_calls hk (hl.trans hc')
      exact hv.opened hn hl' hh (opened (hl'.length_lt (by simp))) (.inr ⟨rfl, hsp x rfl⟩)
  | @connects k s f _ hp =>
    rcases passed_calls hp with ⟨hp, -⟩ | ⟨k', l, hk, hl, hq⟩
    · cases hp
    · cases hk
      have hl' : Env.Calls _ l _ (f.count .activeConnections 1) := hl
      exact hv.opened hn hl' hh (opened (hl'.length_lt hq.ne_nil)) (.inl ⟨k', s, rfl, hq⟩)

theorem exchange_tidy (ht : Tidy h t e) {n : ℕ} (hx : Exchanging b.observed n t e t' e') :
    Tidy h t' e' := by
  cases hx with
  | still => exact ht
  | @on l s e' hl _ hx =>
    have hk := Env.through_keeps b.sockets l.socket.1 l.socket.2
    have he : Env.Through l.socket.2 e e' := exchangeOn_keeps (b := b.observed) hk hx
    exact ht.through (live_eq_ok_iff.mp hl).2 he rfl rfl

theorem run_tidy (hs : t.Settled) (ht : Tidy h t e) {op : Operation} {a : Answer}
    (ho : op.run b.observed fuel t e = some (a, t', e')) : Tidy (h ++ [⟨op, e, e'⟩]) t' e' := by
  have hh : h ⊆ h ++ [⟨op, e, e'⟩] := List.subset_append_left _ _
  cases op with
  | connect host port c recvTimeout sendTimeout =>
    obtain ⟨⟨r, t₁, e₁⟩, hc, he⟩ := Option.map_eq_some_iff.mp ho
    cases he
    exact connect_tidy hs ht hc rfl
  | connectWith host port c config =>
    obtain ⟨⟨r, t₁, e₁⟩, hc, he⟩ := Option.map_eq_some_iff.mp ho
    cases he
    exact connect_tidy hs ht hc rfl
  | send | recv | recvBuffer => exact (exchange_tidy ht (run_exchanging rfl ho)).mono hh rfl rfl
  | disconnect =>
    cases ho
    exact (disconnect_tidy ht).mono hh rfl rfl

/-- **All operations of a run**, by induction over them. -/
theorem tidy_of_runs {e₀ : Env ω} (hr : Runs b.observed Env.Silent e₀.watched h t e) :
    Tidy h t e := by
  induction hr with
  | allocated =>
    exact ⟨fun u hu => absurd hu List.not_mem_nil, nofun, fun n _ => .inl rfl⟩
  | step hr ho ih =>
    have hs := (reachable_kept (hr.reachable fun _ _ ha => ha.1)).settled
    exact run_tidy hs ih ho
  | aside _ ha ih => exact ih.mono (List.Subset.refl _) rfl ha.2

/-- **Giving a transport up** leaves no socket in use. -/
theorem drop_tidy (hs : t.Settled) (ht : Tidy h t e) (n : ℕ) :
    usesOf n (t.drop b.observed e).uses = [] ∨ Follows Spent h n (t.drop b.observed e) := by
  have hn : (t.disconnect b.observed e).1.session = none :=
    (disconnect_spec hs e).1.session_eq_none (disconnect_spec hs e).2.1
  unfold drop
  split
  · refine (disconnect_tidy ht).rest n fun l hl => ?_
    rw [hn] at hl
    cases hl
  · next hc =>
    refine ht.rest n fun l hl => ?_
    rw [hs.session_eq_none hc] at hl
    cases hl

/-! ### Every run -/

/-- **Sockets are used in order.** Whatever is done with a transport, and over whatever sockets:
with all calls written down, those on the socket of a session are four requests that made it ready
for the connect that opened it, and then sends and receives; those on any other socket end with a
close, the only one, after sends and receives or right after the request that failed; when the
transport is given up, no socket is left out of this. A send or a receive makes no other calls than
these two, keeps the state, and does nothing at all without a connection or with nothing to
move. -/
theorem sockets_follow {e₀ e : Env ω} {l : List (Ran ω)} {t : Transport σ κ}
    (h : Runs b Env.Quiet e₀ l t e) :
    (∃ l' t' e', Runs b.observed Env.Silent e₀.watched l' t' e' ∧
      l'.map Ran.unwatched = l ∧ t'.unwatched = t ∧ e'.unwatched = e ∧
      (∀ s, t'.session = some s → Follows InUse l' s.socket.2 e') ∧
      (∀ n, (∀ s, t'.session = some s → s.socket.2 ≠ n) →
        usesOf n e'.uses = [] ∨ Follows Spent l' n e') ∧
      (t'.drop b.observed e').unwatched = t.drop b e ∧
      ∀ n, usesOf n (t'.drop b.observed e').uses = [] ∨
        Follows Spent l' n (t'.drop b.observed e')) ∧
    ∀ (op : Operation) n fuel a t₁ e₁, op.room? = some n → op.run b fuel t e = some (a, t₁, e₁) →
      Exchanged n t e t₁ e₁ := by
  refine ⟨?_, fun op n fuel a t₁ e₁ hn ho => (run_exchanging hn ho).exchanged⟩
  obtain ⟨l', t', e', hr, hl, rfl, rfl⟩ := h.observed
  have ht := tidy_of_runs hr
  have hs := (reachable_kept (hr.reachable fun _ _ ha => ha.1)).settled
  refine ⟨l', t', e', hr, hl, rfl, rfl, ht.live, ht.rest, ?_, drop_tidy hs ht⟩
  exact (drop_refines b.observed_refines t' e').symm

/-- A transport that connected. -/
theorem sockets_follow_connected :
    ∃ (l : List (Ran Script)) (t : Transport Bytes Unit) (e₀ e : Env Script),
      Runs (Script.backing .plain) Env.Quiet e₀ l t e ∧ t.state = .connected ∧
      ∃ l' t' e' s, Runs (Script.backing .plain).observed Env.Silent e₀.watched l' t' e' ∧
        t'.unwatched = t ∧ t'.session = some s ∧ Follows InUse l' s.socket.2 e' := by
  let e₀ := Script.inEnv ⟨.const (.ok 1), .const (.ok []), []⟩
  have hrun : ((Operation.connect "host" 443 .bareRoot (.ofMillis 1) (.ofMillis 1)).run
      (Script.backing .plain) 1 allocated e₀).map (fun o => o.2.1.state) = some .connected := by
    decide +kernel
  obtain ⟨⟨a, t, e⟩, ho, hs⟩ := Option.map_eq_some_iff.mp hrun
  have hr : Runs (Script.backing .plain) Env.Quiet e₀ _ t e := .step .allocated ho
  obtain ⟨⟨l', t', e', hr', -, rfl, -, hl, -, -, -⟩, -⟩ := sockets_follow hr
  have hsettled := (reachable_kept (hr'.reachable fun _ _ ha => ha.1)).settled
  obtain ⟨s, hs'⟩ := hsettled.exists_session hs
  exact ⟨_, _, e₀, e, hr, hs, l', t', e', s, hr', rfl, hs', hl s hs'⟩

end SecureStream.Transport
