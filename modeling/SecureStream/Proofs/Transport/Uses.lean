import SecureStream.Proofs.Transport.Observed

/-! # The calls on one socket

A socket is made ready in four requests (`setUp`), then records go through it, and in the end it is
closed; where one of the requests fails it is closed at once (`InUse`, `Spent`). `Env.Calls` says
which calls are made on one socket between two environments; `advance_calls` and `passed_calls` tell
this of the stages of a connect. -/

namespace SecureStream

variable {ω σ κ : Type}

/-! ### Patterns of calls -/

/-- The limit that a timeout stands for: zero is none. -/
def limitOf (d : Duration) : Option Duration := if d.nanoseconds = 0 then none else some d

theorem nonzero?_eq_limitOf (d : Duration) : d.nonzero? = limitOf d := by
  unfold Duration.nonzero? limitOf
  by_cases h : d.nanoseconds = 0
  · rw [if_pos h, if_pos (Duration.isZero_iff.mpr h)]
  · rw [if_neg h, if_neg fun hz => h (Duration.isZero_iff.mp hz)]

/-- **The requests that make a socket ready.** -/
def setUp (host : String) (port : ℕ) (config : TransportConfig) : List SocketRequest :=
  [.socket config.family .stream .tcp, .setOption (.recvTimeout (limitOf config.recvTimeout)),
    .setOption (.sendTimeout (limitOf config.sendTimeout)), .connect host port]

/-- Requests that went well. -/
def made (l : List SocketRequest) : List SocketCall := l.map fun r => ⟨r, .done⟩

/-- A close. -/
def closing : SocketCall := ⟨.close, .done⟩

/-- **The calls on a socket in use**: it was made ready, and records went through it. -/
def InUse (host : String) (port : ℕ) (config : TransportConfig) (l : List SocketCall) : Prop :=
  ∃ x, l = made (setUp host port config) ++ x ∧ ∀ c ∈ x, Env.Exchanges c.request

/-- **The calls on a socket that is closed**: it was in use before, or a request to make it ready
failed. -/
inductive Spent (host : String) (port : ℕ) (config : TransportConfig) : List SocketCall → Prop
  | used {l} (h : InUse host port config l) : Spent host port config (l ++ [closing])
  | failed {l r m x} (hs : setUp host port config = l ++ r :: m) (hl : l ≠ []) :
    Spent host port config (made l ++ [⟨r, .failed x⟩] ++ [closing])

variable {host : String} {port : ℕ} {config : TransportConfig}

theorem InUse.ne_nil {l : List SocketCall} (h : InUse host port config l) : l ≠ [] := by
  obtain ⟨x, rfl, -⟩ := h
  simp [made, setUp]

theorem InUse.append {l x : List SocketCall} (h : InUse host port config l)
    (hx : ∀ c ∈ x, Env.Exchanges c.request) : InUse host port config (l ++ x) := by
  obtain ⟨y, rfl, hy⟩ := h
  refine ⟨y ++ x, by rw [List.append_assoc], fun c hc => ?_⟩
  rcases List.mem_append.mp hc with hc | hc
  · exact hy c hc
  · exact hx c hc

theorem inUse_made (host : String) (port : ℕ) (config : TransportConfig) :
    InUse host port config (made (setUp host port config)) :=
  ⟨[], by rw [List.append_nil], by simp⟩

theorem Spent.ne_nil {l : List SocketCall} (h : Spent host port config l) : l ≠ [] := by
  cases h <;> simp

/-! ### Calls on one socket -/

/-- The calls on the socket with a number. -/
def usesOf (n : ℕ) (u : List Use) : List SocketCall :=
  (u.filter fun x => x.socket = some n).map Use.call

theorem usesOf_append (n : ℕ) (u v : List Use) : usesOf n (u ++ v) = usesOf n u ++ usesOf n v := by
  rw [usesOf, List.filter_append, List.map_append]
  rfl

theorem usesOf_eq_nil {n : ℕ} {u : List Use} (h : ∀ x ∈ u, x.socket ≠ some n) :
    usesOf n u = [] := by
  rw [usesOf, List.filter_eq_nil_iff.mpr fun x hx => by simpa using h x hx]
  rfl

theorem usesOf_eq_map {n : ℕ} {u : List Use} (h : ∀ x ∈ u, x.socket = some n) :
    usesOf n u = u.map Use.call := by
  rw [usesOf, List.filter_eq_self.mpr fun x hx => by simpa using h x hx]

namespace Env

/-- **From `e` to `e'` the calls `l` are made on the socket with number `n`**, and no others. -/
def Calls (n : ℕ) (l : List SocketCall) (e e' : Env (ω × List Use)) : Prop :=
  ∃ x : List Use, e'.uses = e.uses ++ x ∧ (∀ u ∈ x, u.socket = some n) ∧ x.map Use.call = l

theorem Calls.of_uses_eq {n : ℕ} {e e' : Env (ω × List Use)} (h : e'.uses = e.uses) :
    Calls n [] e e' :=
  ⟨[], by rw [h, List.append_nil], by simp, rfl⟩

theorem Calls.of_use {n : ℕ} {c : SocketCall} {taken : Bytes} {e e' : Env (ω × List Use)}
    (h : e'.uses = e.uses ++ [⟨some n, c, taken⟩]) : Calls n [c] e e' :=
  ⟨_, h, by simp, rfl⟩

theorem Calls.trans {n : ℕ} {l l' : List SocketCall} {e f g : Env (ω × List Use)}
    (h : Calls n l e f) (h' : Calls n l' f g) : Calls n (l ++ l') e g := by
  obtain ⟨x, hx, hn, rfl⟩ := h
  obtain ⟨y, hy, hm, rfl⟩ := h'
  refine ⟨x ++ y, by rw [hy, hx, List.append_assoc], fun u hu => ?_, List.map_append⟩
  rcases List.mem_append.mp hu with hu | hu
  · exact hn u hu
  · exact hm u hu

theorem Calls.usesOf_same {n : ℕ} {l : List SocketCall} {e e' : Env (ω × List Use)}
    (h : Calls n l e e') : usesOf n e'.uses = usesOf n e.uses ++ l := by
  obtain ⟨x, hx, hn, rfl⟩ := h
  rw [hx, usesOf_append, usesOf_eq_map hn]

theorem Calls.usesOf_other {n m : ℕ} {l : List SocketCall} {e e' : Env (ω × List Use)}
    (h : Calls n l e e') (hm : m ≠ n) : usesOf m e'.uses = usesOf m e.uses := by
  obtain ⟨x, hx, hn, rfl⟩ := h
  have hz : usesOf m x = [] := usesOf_eq_nil fun u hu hs => by
    rw [hn u hu] at hs
    exact hm (Option.some.inj hs).symm
  rw [hx, usesOf_append, hz, List.append_nil]

theorem Calls.length_le {n : ℕ} {l : List SocketCall} {e e' : Env (ω × List Use)}
    (h : Calls n l e e') : e.uses.length ≤ e'.uses.length := by
  obtain ⟨x, hx, -⟩ := h
  simp [hx]

theorem Calls.length_lt {n : ℕ} {l : List SocketCall} {e e' : Env (ω × List Use)}
    (h : Calls n l e e') (hl : l ≠ []) : e.uses.length < e'.uses.length := by
  obtain ⟨x, hx, -, rfl⟩ := h
  have hpos : 0 < x.length := List.length_pos_iff.mpr fun hn => hl (by rw [hn]; rfl)
  rw [hx, List.length_append]
  omega

/-- Records go through the socket with number `n`, and nothing else is called. -/
def Through (n : ℕ) (e e' : Env (ω × List Use)) : Prop :=
  ∃ l, Calls n l e e' ∧ ∀ c ∈ l, Exchanges c.request

theorem Through.of_uses_eq {n : ℕ} {e e' : Env (ω × List Use)} (h : e'.uses = e.uses) :
    Through n e e' :=
  ⟨[], .of_uses_eq h, by simp⟩

theorem Through.trans {n : ℕ} {e f g : Env (ω × List Use)} (h : Through n e f)
    (h' : Through n f g) : Through n e g := by
  obtain ⟨l, hl, hx⟩ := h
  obtain ⟨l', hl', hx'⟩ := h'
  refine ⟨l ++ l', hl.trans hl', fun c hc => ?_⟩
  rcases List.mem_append.mp hc with hc | hc
  · exact hx c hc
  · exact hx' c hc

/-- **Using a connected socket** brings records through it. -/
theorem through_keeps (i : Sockets ω κ) (k : κ) (n : ℕ) :
    Env.Keeps i.observed (k, n) (Through n) where
  stream := by
    refine ByteStream.Keeps.normalised ⟨fun _ => .of_uses_eq rfl, Through.trans, fun limit e => ?_,
      fun b e => ?_⟩
    · refine ⟨[_], .of_use rfl, fun c hc => ?_⟩
      rw [List.mem_singleton.mp hc]
      exact .inr rfl
    · refine ⟨[_], .of_use rfl, fun c hc => ?_⟩
      rw [List.mem_singleton.mp hc]
      exact .inl rfl
  log _ _ := .of_uses_eq rfl
  count _ _ _ := .of_uses_eq rfl

end Env

/-! ### The stages of a connect -/

namespace Transport

variable {b : Backing ω σ κ} {c : Credentials} {fuel : ℕ}

/-- The calls that were made on the socket of a connect that came so far. -/
def Connecting.Has (host : String) (port : ℕ) (config : TransportConfig) (l : List SocketCall) :
    Connecting σ κ → Prop
  | vacant => False
  | opened _ => l = made ((setUp host port config).take 1)
  | receiveLimited _ => l = made ((setUp host port config).take 2)
  | limited _ => l = made ((setUp host port config).take 3)
  | connected _ | provided _ _ | configured _ _ _ | started _ _ => l = made (setUp host port config)
  | ready _ _ => InUse host port config l

theorem shakeHands_through {k : κ} {n : ℕ} {s : Session (σ × Bytes)} {e e' : Env (ω × List Use)}
    {r : Except TransportError (Session (σ × Bytes))}
    (h : shakeHands b.observed (k, n) config fuel s e = some (r, e')) : Env.Through n e e' := by
  refine shakeHands_keeps (b := b.observed) (Env.through_keeps b.sockets k n) ?_ h
  exact ⟨fun _ => .of_uses_eq rfl, fun _ _ => .of_uses_eq rfl⟩

/-- **A stage on a socket** adds to the calls what it should. -/
theorem advance_calls {p : Connecting (σ × Bytes) (κ × ℕ)} {k : κ} {n : ℕ} {l : List SocketCall}
    {e e' : Env (ω × List Use)} {r : Except TransportError (Connecting (σ × Bytes) (κ × ℕ))}
    (hp : p.socket? = some (k, n)) (hl : p.Has host port config l)
    (h : advance b.observed host port c config fuel p e = some (r, e')) :
    ∃ l', Env.Calls n l' e e' ∧ (∀ q, r = .ok q → q.Has host port config (l ++ l')) ∧
      ∀ x, r = .error x → Spent host port config (l ++ l' ++ [closing]) := by
  have setOption {o : SocketOption} {r : Except IoError Unit} {f : Env (ω × List Use)}
      (he : e.setOption b.observed.sockets (k, n) o = (r, f)) :
      Env.Calls n [⟨.setOption o, Env.replyOf (fun _ => .done) r⟩] e f := by
    cases he
    exact .of_use rfl
  have connect {r : Except IoError Unit} {f : Env (ω × List Use)}
      (he : e.connect b.observed.sockets (k, n) host port = (r, f)) :
      Env.Calls n [⟨.connect host port, Env.replyOf (fun _ => .done) r⟩] e f := by
    cases he
    exact .of_use rfl
  cases p with
  | vacant => cases hp
  | opened k' =>
    cases hp
    cases hl
    simp only [advance, nonzero?_eq_limitOf] at h
    rcases he : e.setOption b.observed.sockets (k, n)
      (.recvTimeout (limitOf config.recvTimeout)) with ⟨x | _, e₁⟩
    all_goals
      rw [he] at h
      cases h
    · refine ⟨_, setOption he, fun q hq => ?_, fun _ _ => ?_⟩
      · cases hq
      · exact .failed (m := (setUp host port config).drop 2) rfl (List.cons_ne_nil _ _)
    · refine ⟨_, setOption he, fun q hq => ?_, fun x hx => ?_⟩
      · cases hq
        rfl
      · cases hx
  | receiveLimited k' =>
    cases hp
    cases hl
    simp only [advance, nonzero?_eq_limitOf] at h
    rcases he : e.setOption b.observed.sockets (k, n)
      (.sendTimeout (limitOf config.sendTimeout)) with ⟨x | _, e₁⟩
    all_goals
      rw [he] at h
      cases h
    · refine ⟨_, setOption he, fun q hq => ?_, fun _ _ => ?_⟩
      · cases hq
      · exact .failed (m := (setUp host port config).drop 3) rfl (List.cons_ne_nil _ _)
    · refine ⟨_, setOption he, fun q hq => ?_, fun x hx => ?_⟩
      · cases hq
        rfl
      · cases hx
  | limited k' =>
    cases hp
    cases hl
    simp only [advance] at h
    rcases he : e.connect b.observed.sockets (k, n) host port with ⟨x | _, e₁⟩
    all_goals
      rw [he] at h
      cases h
    · refine ⟨_, connect he, fun q hq => ?_, fun _ _ => ?_⟩
      · cases hq
      · exact .failed (m := []) rfl (List.cons_ne_nil _ _)
    · refine ⟨_, connect he, fun q hq => ?_, fun x hx => ?_⟩
      · cases hq
        rfl
      · cases hx
  | connected k' | provided k' p' | configured k' p' setup =>
    cases hp
    cases hl
    simp only [advance] at h
    split at h
    all_goals
      cases h
      refine ⟨[], .of_uses_eq rfl, fun q hq => ?_, fun x hx => ?_⟩
      · cases hq <;> exact List.append_nil _
      · rw [List.append_nil]
        cases hx <;> exact .used (inUse_made host port config)
  | started k' s =>
    cases hp
    cases hl
    obtain ⟨⟨r', e₁⟩, hs, ho⟩ := Option.map_eq_some_iff.mp h
    cases ho
    obtain ⟨l', hc, hx⟩ := shakeHands_through hs
    have hu := (inUse_made host port config).append hx
    refine ⟨l', hc, fun q hq => ?_, fun x _ => .used hu⟩
    cases r' with
    | error x => cases hq
    | ok s' =>
      cases hq
      exact hu
  | ready k' s => cases h

theorem opened_calls {host : String} {port : ℕ} {e f : Env (ω × List Use)} {k : κ} {n : ℕ}
    (h : e.socket b.observed.sockets config.family = (.ok (k, n), f)) :
    n = e.uses.length ∧ Env.Calls n (made ((setUp host port config).take 1)) e f := by
  unfold Env.socket Env.entered at h
  simp only [Backing.observed, Sockets.observed] at h
  rcases hr : b.sockets.socket config.family .stream .tcp e.world.1 with ⟨x | k', w⟩
  · rw [hr] at h
    cases h
  · rw [hr] at h
    cases h
    exact ⟨rfl, .of_use rfl⟩

theorem unopened_use {e f : Env (ω × List Use)} {x : TransportError}
    (h : Fails b.observed host port c config fuel .vacant e x f) :
    ∃ u : Use, u.socket = none ∧ f.uses = e.uses ++ [u] := by
  simp only [Fails, advance] at h
  split at h
  · cases h
  · next y f he =>
    cases h
    simp only [Env.socket, Env.entered, Backing.observed, Sockets.observed] at he
    rcases hr : b.sockets.socket config.family .stream .tcp e.world.1 with ⟨x | k', w⟩
    · rw [hr] at he
      cases he
      exact ⟨_, rfl, rfl⟩
    · rw [hr] at he
      cases he

theorem release_calls {p : Connecting (σ × Bytes) (κ × ℕ)} {k : κ} {n : ℕ} {l : List SocketCall}
    {e f : Env (ω × List Use)} (hp : p.socket? = some (k, n)) (hl : Env.Calls n l e f) :
    Env.Calls n (l ++ [closing]) e (p.release b.observed f) := by
  rw [Connecting.release, hp]
  exact hl.trans ⟨[⟨some n, closing, []⟩], rfl, by simp, rfl⟩

/-- **The calls on the socket of a connect**, as far as it came. -/
theorem passed_calls {e₀ e : Env (ω × List Use)} {p : Connecting (σ × Bytes) (κ × ℕ)}
    (h : Passed b.observed host port c config fuel e₀ p e) :
    p = .vacant ∧ e = e₀ ∨ ∃ k l, p.socket? = some (k, e₀.uses.length) ∧
      Env.Calls e₀.uses.length l e₀ e ∧ p.Has host port config l := by
  unfold Passed at h
  generalize hx : (p, e) = x at h
  induction h generalizing p e with
  | refl =>
    cases hx
    exact .inl ⟨rfl, rfl⟩
  | @tail y z _ hs ih =>
    obtain ⟨q, f⟩ := y
    subst hx
    rcases ih rfl with ⟨rfl, rfl⟩ | ⟨k, l, hk, hl, hq⟩
    · simp only [Passes, advance] at hs
      split at hs
      · next s _ he =>
        obtain ⟨k, n⟩ := s
        cases hs
        obtain ⟨rfl, hc⟩ := opened_calls he
        exact .inr ⟨k, _, rfl, hc, rfl⟩
      · cases hs
    · obtain ⟨l', hc, hp, -⟩ := advance_calls hk hq hs
      refine .inr ⟨k, l ++ l', ?_, hl.trans hc, hp p rfl⟩
      exact (advance_adds hk hs).2 p rfl

end Transport

end SecureStream
