import SecureStream.Proofs.Session.HandshakeTime
import Mathlib.Algebra.Order.Floor.Div
import Mathlib.Algebra.Group.Nat.Defs
import Mathlib.GroupTheory.GroupAction.Ring

/-! # The history of a handshake

A handshake goes on behind a step that made progress or was not ready, and its history is the list
of these (`Mark`, the newest first). From the history follow the counts and the pauses: the driver
keeps counters, and `Reached`, which says where a handshake can get, has none.

* `drive_of_reached`: where a handshake can get, the counters of the driver are those of the
  history.
* `drive_eq_some_iff_reached`: what a handshake comes to is what ends it behind some history.
* `drive_paced`: pauses, counts and timeouts of a whole handshake. -/

namespace SecureStream.Handshake

variable {σ ε : Type}

/-! ### Histories -/

/-- What a step came to, if the handshake went on behind it. -/
inductive Mark
  | progress
  | notReady
deriving DecidableEq

/-- How many steps in a row were not ready when the history ended. -/
def streak : List Mark → ℕ
  | .notReady :: l => streak l + 1
  | _ => 0

/-- The pause behind a step that was not ready, in milliseconds, if `j` such steps came right before
it. -/
def pauseAfter (j : ℕ) : ℕ := min (2 ^ j) maxPause

theorem pauseAfter_succ (j : ℕ) : pauseAfter (j + 1) = min (2 * pauseAfter j) maxPause := by
  have hpow : 2 ^ (j + 1) = 2 * 2 ^ j := Nat.pow_succ'
  unfold pauseAfter
  rw [hpow]
  omega

/-- The first pauses. -/
example : (List.range 8).map pauseAfter = [1, 2, 4, 8, 16, 32, 50, 50] := by decide

section
variable (p : Protocol σ) (io : ByteStream ε) (clock : Clock ε) (budget : Option Duration)

/-- The clock is looked at if there is a budget. -/
def look : Option Duration → ε → ε
  | none, e => e
  | some _, e => (clock.now e).2

/-- **The budget is used up.** -/
def Expired (started : ℕ) (e : ε) : Prop :=
  ∃ limit, budget = some limit ∧ limit.nanoseconds ≤ (clock.now e).1 - started

/-- **Where the handshake of `s₀` in `e₀` gets** by the steps of a history. Behind a step that was
not ready it sleeps, the longer the more such steps there were in a row. -/
inductive Reached (s₀ : Session σ) (e₀ : ε) : List Mark → Session σ → ε → Prop
  | start : Reached s₀ e₀ [] s₀ (clock.now e₀).2
  | progress {l s e s' e'} (h : Reached s₀ e₀ l s e)
    (hs : step p io s e = (.ok .progress, s', e')) : Reached s₀ e₀ (.progress :: l) s' e'
  | again {l s e f s' e'} (h : Reached s₀ e₀ l s e) (hs : step p io s e = (.error f, s', e'))
    (hf : f.isRetryable) (hb : ¬Expired clock budget (clock.now e₀).1 e') :
    Reached s₀ e₀ (.notReady :: l) s'
      (clock.sleep (.ofMillis (pauseAfter (streak l))) (look clock budget e'))

/-- **How the next step ends the handshake** behind a history. -/
inductive Ends (started : ℕ) (l : List Mark) (s : Session σ) (e : ε) : Outcome σ ε → Prop
  | done {s' e'} (hs : step p io s e = (.ok .done, s', e')) :
    Ends started l s e
      (.ok ⟨l.length + 1, l.count .notReady, (clock.now e').1 - started⟩, s', (clock.now e').2)
  | failed {f s' e'} (hs : step p io s e = (.error f, s', e')) (hf : ¬f.isRetryable) :
    Ends started l s e (.error f, s', e')
  | expired {f s' e'} (hs : step p io s e = (.error f, s', e')) (hf : f.isRetryable)
    (hb : Expired clock budget started e') :
    Ends started l s e (.error .timeout, s', (clock.now e').2)

end

variable {p : Protocol σ} {io : ByteStream ε} {clock : Clock ε} {budget : Option Duration}
  {started fuel : ℕ} {s₀ s s' : Session σ} {e₀ e e' : ε} {l : List Mark} {f : StreamFault}
  {o : Outcome σ ε}

theorem not_expired_none : ¬Expired clock none started e := by
  rintro ⟨limit, hb, -⟩
  cases hb

theorem expired_some_iff {limit : Duration} :
    Expired clock (some limit) started e ↔ limit.nanoseconds ≤ (clock.now e).1 - started := by
  constructor
  · rintro ⟨limit', hb, hl⟩
    obtain rfl := Option.some.inj hb
    exact hl
  · intro hl
    exact ⟨limit, rfl, hl⟩

/-! ### One step of the driver -/

section
variable {steps retries pause : ℕ}

theorem driveFrom_of_progress (hs : step p io s e = (.ok .progress, s', e')) :
    driveFrom p io clock budget started (fuel + 1) steps retries pause s e =
      driveFrom p io clock budget started fuel (steps + 1) retries initialPause s' e' := by
  rw [driveFrom, hs]

theorem driveFrom_of_again (hs : step p io s e = (.error f, s', e')) (hf : f.isRetryable)
    (hb : ¬Expired clock budget started e') :
    driveFrom p io clock budget started (fuel + 1) steps retries pause s e =
      driveFrom p io clock budget started fuel (steps + 1) (retries + 1)
        (min (2 * pause) maxPause) s'
        (clock.sleep (.ofMillis pause) (look clock budget e')) := by
  rw [driveFrom, hs]
  dsimp only
  rw [if_pos hf]
  cases budget with
  | none => rfl
  | some limit =>
    rw [expired_some_iff] at hb
    exact if_neg hb

theorem driveFrom_of_failed (hs : step p io s e = (.error f, s', e')) (hf : ¬f.isRetryable) :
    driveFrom p io clock budget started (fuel + 1) steps retries pause s e =
      some (.error f, s', e') := by
  rw [driveFrom, hs]
  exact if_neg hf

theorem driveFrom_of_expired (hs : step p io s e = (.error f, s', e')) (hf : f.isRetryable)
    (hb : Expired clock budget started e') :
    driveFrom p io clock budget started (fuel + 1) steps retries pause s e =
      some (.error .timeout, s', (clock.now e').2) := by
  obtain ⟨limit, rfl, hl⟩ := hb
  rw [driveFrom, hs]
  dsimp only
  rw [if_pos hf]
  exact if_pos hl

theorem driveFrom_of_ends (h : Ends p io clock budget started l s e o) :
    driveFrom p io clock budget started (fuel + 1) l.length (l.count .notReady) pause s e =
      some o := by
  cases h with
  | done hs => rw [driveFrom, hs]
  | failed hs hf => exact driveFrom_of_failed hs hf
  | expired hs hf hb => exact driveFrom_of_expired hs hf hb

end

/-! ### Whole handshakes -/

/-- **The counters of the driver are those of the history.** -/
theorem drive_of_reached (h : Reached p io clock budget s₀ e₀ l s e) (fuel : ℕ) :
    drive p io clock budget (l.length + fuel) s₀ e₀ =
      driveFrom p io clock budget (clock.now e₀).1 fuel l.length (l.count .notReady)
        (pauseAfter (streak l)) s e := by
  induction h generalizing fuel with
  | start => rw [List.length_nil, Nat.zero_add]; rfl
  | @progress l s e s' e' _ hs ih =>
    have hlen : (Mark.progress :: l).length + fuel = l.length + (fuel + 1) := by
      rw [List.length_cons]; omega
    have hcount : (Mark.progress :: l).count .notReady = l.count .notReady :=
      List.count_cons_of_ne (by decide)
    rw [hlen, ih, driveFrom_of_progress hs, hcount]
    rfl
  | @again l s e f s' e' _ hs hf hb ih =>
    have hlen : (Mark.notReady :: l).length + fuel = l.length + (fuel + 1) := by
      rw [List.length_cons]; omega
    have hpause := pauseAfter_succ (streak l)
    rw [hlen, ih, driveFrom_of_again hs hf hb, ← hpause, List.count_cons_self]
    rfl

theorem driveFrom_cons {m : Mark} (h : Reached p io clock budget s₀ e₀ l s e)
    (h' : Reached p io clock budget s₀ e₀ (m :: l) s' e') (fuel : ℕ) :
    driveFrom p io clock budget (clock.now e₀).1 (fuel + 1) l.length (l.count .notReady)
        (pauseAfter (streak l)) s e =
      driveFrom p io clock budget (clock.now e₀).1 fuel (m :: l).length ((m :: l).count .notReady)
        (pauseAfter (streak (m :: l))) s' e' := by
  have hlen : (m :: l).length + fuel = l.length + (fuel + 1) := by
    rw [List.length_cons]; omega
  rw [← drive_of_reached h, ← drive_of_reached h', hlen]

/-- A driver that goes on from a history comes to what ends the handshake behind a longer one. -/
theorem exists_ends (hr : Reached p io clock budget s₀ e₀ l s e)
    (h : driveFrom p io clock budget (clock.now e₀).1 fuel l.length (l.count .notReady)
      (pauseAfter (streak l)) s e = some o) :
    ∃ l' s' e', Reached p io clock budget s₀ e₀ l' s' e' ∧ l'.length < l.length + fuel ∧
      Ends p io clock budget (clock.now e₀).1 l' s' e' o := by
  induction fuel generalizing l s e with
  | zero => cases h
  | succ fuel ih =>
    have hlt : l.length < l.length + (fuel + 1) := by omega
    have hend {o'} (he : Ends p io clock budget (clock.now e₀).1 l s e o') :
        ∃ l' s' e', Reached p io clock budget s₀ e₀ l' s' e' ∧ l'.length < l.length + (fuel + 1) ∧
          Ends p io clock budget (clock.now e₀).1 l' s' e' o := by
      rw [driveFrom_of_ends he] at h
      obtain rfl := Option.some.inj h
      exact ⟨l, s, e, hr, hlt, he⟩
    have hgo {m s₁ e₁} (hr₁ : Reached p io clock budget s₀ e₀ (m :: l) s₁ e₁) :
        ∃ l' s' e', Reached p io clock budget s₀ e₀ l' s' e' ∧ l'.length < l.length + (fuel + 1) ∧
          Ends p io clock budget (clock.now e₀).1 l' s' e' o := by
      rw [driveFrom_cons hr hr₁] at h
      obtain ⟨l', s', e', hr', hlt', he'⟩ := ih hr₁ h
      rw [List.length_cons] at hlt'
      exact ⟨l', s', e', hr', by omega, he'⟩
    -- the next step ends the handshake, or it is one more step of the history
    rcases hs : step p io s e with ⟨f | _ | _, s₁, e₁⟩
    · by_cases hf : f.isRetryable
      · by_cases hb : Expired clock budget (clock.now e₀).1 e₁
        · exact hend (.expired hs hf hb)
        · exact hgo (hr.again hs hf hb)
      · exact hend (.failed hs hf)
    · exact hgo (hr.progress hs)
    · exact hend (.done hs)

theorem drive_of_ends (hr : Reached p io clock budget s₀ e₀ l s e)
    (he : Ends p io clock budget (clock.now e₀).1 l s e o) (hlt : l.length < fuel) :
    drive p io clock budget fuel s₀ e₀ = some o := by
  obtain ⟨k, rfl⟩ := Nat.exists_eq_add_of_lt hlt
  rw [Nat.add_assoc, drive_of_reached hr, driveFrom_of_ends he]

/-- **What a handshake comes to**: what ends it behind some history. -/
theorem drive_eq_some_iff_reached :
    drive p io clock budget fuel s₀ e₀ = some o ↔
      ∃ l s e, Reached p io clock budget s₀ e₀ l s e ∧ l.length < fuel ∧
        Ends p io clock budget (clock.now e₀).1 l s e o := by
  constructor
  · intro h
    have hr₀ : Reached p io clock budget s₀ e₀ [] s₀ (clock.now e₀).2 := .start
    have hd := drive_of_reached hr₀ fuel
    rw [List.length_nil, Nat.zero_add, h] at hd
    obtain ⟨l, s, e, hr, hlt, he⟩ := exists_ends .start hd.symm
    rw [List.length_nil, Nat.zero_add] at hlt
    exact ⟨l, s, e, hr, hlt, he⟩
  · rintro ⟨l, s, e, hr, hlt, he⟩
    exact drive_of_ends hr he hlt

theorem length_le_of_ends (hr : Reached p io clock budget s₀ e₀ l s e)
    (he : Ends p io clock budget (clock.now e₀).1 l s e o) {l' : List Mark}
    (hr' : Reached p io clock budget s₀ e₀ l' s' e') : l'.length ≤ l.length := by
  by_contra hlt
  have hd : drive p io clock budget l'.length s₀ e₀ = some o := drive_of_ends hr he (by omega)
  have hd' := drive_of_reached hr' 0
  rw [Nat.add_zero, hd] at hd'
  cases hd'

/-! ### Histories and counters -/

theorem begun_of_reached {limit : Duration} (h : Reached p io clock (some limit) s₀ e₀ l s e) :
    ∃ k, Begun p io clock limit s₀ e₀ k
      ⟨l.length, l.count .notReady, pauseAfter (streak l), s, e⟩ := by
  induction h with
  | start => exact ⟨[], .refl⟩
  | @progress l s e s' e' _ hs ih =>
    obtain ⟨k, hk⟩ := ih
    have hcount : (Mark.progress :: l).count .notReady = l.count .notReady :=
      List.count_cons_of_ne (by decide)
    refine ⟨_, .step hk ?_⟩
    rw [next_of_progress hs, hcount]
    rfl
  | @again l s e f s' e' _ hs hf hb ih =>
    obtain ⟨k, hk⟩ := ih
    rw [expired_some_iff] at hb
    refine ⟨_, .step hk ?_⟩
    rw [next_of_again hs hf hb, ← pauseAfter_succ, List.count_cons_self]
    rfl

/-- **Pauses that last leave room for few steps that are not ready**: each takes a millisecond of
the budget. -/
theorem count_le_of_reached {time : ε → ℕ} (h : Timely io clock time)
    (hp : ∀ d e, time e + d.nanoseconds ≤ time (clock.sleep d e)) {limit : Duration}
    (hr : Reached p io clock (some limit) s₀ e₀ l s e) :
    l.count .notReady ≤ limit.nanoseconds ⌈/⌉ 1000000 := by
  obtain ⟨k, hk⟩ := begun_of_reached hr
  have hstart : (clock.now e₀).1 ≤ time (clock.now e₀).2 := (h.told e₀).2
  have hbound := (retries_of_starts h hp (m := 1000000) (fun _ => le_nanoseconds_ofMillis)
    (by omega) rfl (Nat.le_refl 1) hstart hk).2.2
  dsimp only at hbound
  rw [Nat.ceilDiv_eq_add_pred_div, Nat.le_div_iff_mul_le (by omega)]
  omega

/-! ### The pace -/

theorem exists_timeout_iff :
    (∃ fuel s e, drive p io clock budget fuel s₀ e₀ = some (.error .timeout, s, e)) ↔
      ∃ l s e f s' e', Reached p io clock budget s₀ e₀ l s e ∧
        step p io s e = (.error f, s', e') ∧ f.isRetryable ∧
        Expired clock budget (clock.now e₀).1 e' := by
  constructor
  · rintro ⟨fuel, s, e, h⟩
    obtain ⟨l, s₁, e₁, hr, -, he⟩ := drive_eq_some_iff_reached.mp h
    cases he with
    | failed hs hf => exact absurd rfl hf
    | expired hs hf hb => exact ⟨l, s₁, e₁, _, _, _, hr, hs, hf, hb⟩
  · rintro ⟨l, s, e, f, s', e', hr, hs, hf, hb⟩
    exact ⟨l.length + 1, s', (clock.now e').2, drive_of_ends hr (.expired hs hf hb) (by omega)⟩

/-- **The pace of a handshake.** What it comes to is what ends it behind its history. The `j`-th
step in a row that is not ready is followed by a pause of `2 ^ (j - 1)` milliseconds, at most 50.
When all is done, the count of steps is that of the history and one, and the count of retries is
that of its steps that were not ready. It times out exactly if there is a budget and at a step that
was not ready so much time has passed; then it stops there, without a pause and without another
step. Where pauses last as long as they should, each step that is not ready takes a millisecond of
the budget, except the last one. -/
theorem drive_paced (p : Protocol σ) (io : ByteStream ε) (clock : Clock ε)
    (budget : Option Duration) (s₀ : Session σ) (e₀ : ε) :
    (∀ fuel o, drive p io clock budget fuel s₀ e₀ = some o ↔
      ∃ l s e, Reached p io clock budget s₀ e₀ l s e ∧ l.length < fuel ∧
        Ends p io clock budget (clock.now e₀).1 l s e o) ∧
    (∀ l s e f s' e', Reached p io clock budget s₀ e₀ l s e →
      step p io s e = (.error f, s', e') → f.isRetryable →
      ¬Expired clock budget (clock.now e₀).1 e' →
      ∀ fuel, drive p io clock budget (l.length + 1 + fuel) s₀ e₀ =
        driveFrom p io clock budget (clock.now e₀).1 fuel (l.length + 1) (l.count .notReady + 1)
          (min (2 ^ (streak l + 1)) 50) s'
          (clock.sleep (.ofMillis (min (2 ^ streak l) 50)) (look clock budget e'))) ∧
    (∀ fuel st s' e', drive p io clock budget fuel s₀ e₀ = some (.ok st, s', e') →
      ∃ l s e, Reached p io clock budget s₀ e₀ l s e ∧ (step p io s e).1 = .ok .done ∧
        st.steps = l.length + 1 ∧ st.retries = l.count .notReady) ∧
    ((∃ fuel s e, drive p io clock budget fuel s₀ e₀ = some (.error .timeout, s, e)) ↔
      ∃ limit, budget = some limit ∧ ∃ l s e f s' e', Reached p io clock budget s₀ e₀ l s e ∧
        step p io s e = (.error f, s', e') ∧ f.isRetryable ∧
        limit.nanoseconds ≤ (clock.now e').1 - (clock.now e₀).1) ∧
    (∀ limit l s e f s' e', budget = some limit → Reached p io clock budget s₀ e₀ l s e →
      step p io s e = (.error f, s', e') → f.isRetryable →
      limit.nanoseconds ≤ (clock.now e').1 - (clock.now e₀).1 →
      (∀ fuel, l.length < fuel →
        drive p io clock budget fuel s₀ e₀ = some (.error .timeout, s', (clock.now e').2)) ∧
      ∀ l' s'' e'', Reached p io clock budget s₀ e₀ l' s'' e'' → l'.length ≤ l.length) ∧
    ∀ limit time, budget = some limit → Timely io clock time →
      (∀ d e, time e + d.nanoseconds ≤ time (clock.sleep d e)) →
      ∀ l s e, Reached p io clock budget s₀ e₀ l s e →
        l.count .notReady + 1 ≤ limit.nanoseconds ⌈/⌉ 1000000 + 1 := by
  refine ⟨fun fuel o => drive_eq_some_iff_reached, ?_, ?_, ?_, ?_, ?_⟩
  · intro l s e f s' e' hr hs hf hb fuel
    have hd := drive_of_reached (hr.again hs hf hb) fuel
    rw [List.length_cons, List.count_cons_self] at hd
    exact hd
  · intro fuel st s' e' h
    obtain ⟨l, s, e, hr, -, he⟩ := drive_eq_some_iff_reached.mp h
    cases he with
    | done hs => exact ⟨l, s, e, hr, by rw [hs], rfl, rfl⟩
  · rw [exists_timeout_iff]
    constructor
    · rintro ⟨l, s, e, f, s', e', hr, hs, hf, limit, hb, hl⟩
      exact ⟨limit, hb, l, s, e, f, s', e', hr, hs, hf, hl⟩
    · rintro ⟨limit, hb, l, s, e, f, s', e', hr, hs, hf, hl⟩
      exact ⟨l, s, e, f, s', e', hr, hs, hf, limit, hb, hl⟩
  · intro limit l s e f s' e' hb hr hs hf hl
    have he : Ends p io clock budget (clock.now e₀).1 l s e _ := .expired hs hf ⟨limit, hb, hl⟩
    exact ⟨fun fuel hlt => drive_of_ends hr he hlt,
      fun l' s'' e'' hr' => length_le_of_ends hr he hr'⟩
  · rintro limit time rfl h hp l s e hr
    have hcount := count_le_of_reached h hp hr
    omega

/-! ### A peer that is silent -/

/-- **A peer that is silent**: nothing comes, and reading and writing take no time. -/
def silent : ByteStream ℕ where
  read _ t := (.error (.plain .wouldBlock), t)
  write b t := (.ok b.length, t)

theorem timely_silent : Timely silent wallClock fun t => t where
  stream := ⟨Nat.le_refl, Nat.le_trans, fun _ => Nat.le_refl, fun _ => Nat.le_refl⟩
  told t := ⟨Nat.le_refl t, Nat.le_refl t⟩
  sleep d t := Nat.le_add_right t d.nanoseconds

theorem step_silent (n t : ℕ) :
    step awaiting silent (.fresh (n + 1) []) t =
      (.error (.ofIoError (.plain .wouldBlock) .recv), .fresh (n + 1) [], t) := rfl

/-- As long as there is time the handshake waits for another pause. -/
theorem reached_silent {limit : Duration} {n t : ℕ}
    (h : Reached awaiting silent wallClock (some limit) (.fresh (n + 1) []) 0 l (.fresh (n + 1) [])
      t) (ht : t < limit.nanoseconds) :
    Reached awaiting silent wallClock (some limit) (.fresh (n + 1) []) 0 (.notReady :: l)
      (.fresh (n + 1) []) (t + (Duration.ofMillis (pauseAfter (streak l))).nanoseconds) := by
  have hb : ¬Expired wallClock (some limit) (wallClock.now 0).1 t := by
    rw [expired_some_iff, Nat.not_le]
    exact ht
  exact h.again (step_silent n t) rfl hb

/-- Of 20 milliseconds five pauses take 31, and the sixth step that is not ready is the last. -/
theorem drive_paced_silent :
    Timely silent wallClock (fun t => t) ∧
      drive awaiting silent wallClock (some (.ofMillis 20)) 6 (.fresh 1 []) 0 =
        some (.error .timeout, .fresh 1 [], 31000000) ∧
      ∀ l s e, Reached awaiting silent wallClock (some (.ofMillis 20)) (.fresh 1 []) 0 l s e →
        l.count .notReady + 1 ≤ 21 := by
  have h₁ : Reached awaiting silent wallClock (some (.ofMillis 20)) (.fresh 1 []) 0 [.notReady]
      (.fresh 1 []) _ := reached_silent .start (by decide)
  have h₂ := reached_silent h₁ (by decide)
  have h₃ := reached_silent h₂ (by decide)
  have h₄ := reached_silent h₃ (by decide)
  have h₅ := reached_silent h₄ (by decide)
  obtain ⟨-, -, -, -, hstops, hbound⟩ :=
    drive_paced awaiting silent wallClock (some (.ofMillis 20)) (.fresh 1 []) 0
  refine ⟨timely_silent, ?_, ?_⟩
  · exact (hstops _ _ _ _ _ _ _ rfl h₅ (step_silent 0 _) rfl (by decide)).1 6 (by decide)
  · intro l s e hr
    exact hbound _ _ rfl timely_silent (fun d t => Nat.le_refl _) l s e hr

end SecureStream.Handshake
