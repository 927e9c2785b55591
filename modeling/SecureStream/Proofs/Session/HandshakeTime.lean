import SecureStream.Proofs.Session.Flush
import Mathlib.Data.List.Basic
import Mathlib.Tactic.Common

/-! # The time that a handshake takes

The driver of a handshake with a budget starts one step after the other (`Start`, `next`, `Starts`)
and looks at its clock behind a step that was not ready. So the budget bounds the steps that are not
ready. It does not bound those that make progress: behind such a step the driver starts another one,
whatever time it is.

* `drive_eq_some_iff`: a handshake comes to what its last step comes to.
* `late_starts_iff`: what the budget bounds, and what it does not. -/

namespace SecureStream.Handshake

variable {σ ε : Type}

/-! ### Steps one after the other -/

/-- **The driver when it starts a step**, with what it has counted so far. -/
structure Start (σ ε : Type) where
  steps : ℕ
  retries : ℕ
  /-- The next pause, in milliseconds. -/
  pause : ℕ
  session : Session σ
  env : ε

/-- **What the driver does behind a step.** -/
inductive Next (σ ε : Type)
  | returns (o : Outcome σ ε)
  | goes (x : Start σ ε)

section
variable (p : Protocol σ) (io : ByteStream ε) (clock : Clock ε) (limit : Duration) (started : ℕ)

/-- Takes the step that starts. -/
def next (x : Start σ ε) : Next σ ε :=
  match step p io x.session x.env with
  | (.ok .done, s, e) =>
    .returns (.ok ⟨x.steps + 1, x.retries, (clock.now e).1 - started⟩, s, (clock.now e).2)
  | (.ok .progress, s, e) => .goes ⟨x.steps + 1, x.retries, initialPause, s, e⟩
  | (.error f, s, e) =>
    if f.isRetryable then
      if limit.nanoseconds ≤ (clock.now e).1 - started then
        .returns (.error .timeout, s, (clock.now e).2)
      else
        .goes ⟨x.steps + 1, x.retries + 1, min (2 * x.pause) maxPause, s,
          clock.sleep (.ofMillis x.pause) (clock.now e).2⟩
    else .returns (.error f, s, e)

/-- **From `x` on the driver started the steps `l`, and then the one at `y`.** -/
inductive Starts (x : Start σ ε) : List (Start σ ε) → Start σ ε → Prop
  | refl : Starts x [] x
  | step {l y z} (h : Starts x l y) (hn : next p io clock limit started y = .goes z) :
    Starts x (l ++ [y]) z

/-- The driver from a step on. `none` if `fuel` steps are not enough. -/
def Start.drive (fuel : ℕ) (x : Start σ ε) : Option (Outcome σ ε) :=
  driveFrom p io clock (some limit) started fuel x.steps x.retries x.pause x.session x.env

end

/-- The driver when it starts its first step. -/
def Start.first (clock : Clock ε) (s : Session σ) (e : ε) : Start σ ε :=
  ⟨0, 0, initialPause, s, (clock.now e).2⟩

variable {p : Protocol σ} {io : ByteStream ε} {clock : Clock ε} {limit : Duration} {started : ℕ}

theorem Starts.head {x y z : Start σ ε} {l : List (Start σ ε)}
    (hn : next p io clock limit started x = .goes y) (h : Starts p io clock limit started y l z) :
    Starts p io clock limit started x (x :: l) z := by
  induction h with
  | refl => exact .step (l := []) .refl hn
  | step _ hz ih => exact .step ih hz

section
variable {x : Start σ ε} {s : Session σ} {e : ε} {f : StreamFault}

theorem next_of_done (h : step p io x.session x.env = (.ok .done, s, e)) :
    next p io clock limit started x =
      .returns (.ok ⟨x.steps + 1, x.retries, (clock.now e).1 - started⟩, s, (clock.now e).2) := by
  rw [next, h]

/-- Behind progress the clock is not looked at. -/
theorem next_of_progress (h : step p io x.session x.env = (.ok .progress, s, e)) :
    next p io clock limit started x = .goes ⟨x.steps + 1, x.retries, initialPause, s, e⟩ := by
  rw [next, h]

theorem next_of_fatal (h : step p io x.session x.env = (.error f, s, e)) (hf : ¬f.isRetryable) :
    next p io clock limit started x = .returns (.error f, s, e) := by
  rw [next, h]
  exact if_neg hf

theorem next_of_expired (h : step p io x.session x.env = (.error f, s, e)) (hf : f.isRetryable)
    (hl : limit.nanoseconds ≤ (clock.now e).1 - started) :
    next p io clock limit started x = .returns (.error .timeout, s, (clock.now e).2) := by
  rw [next, h]
  exact (if_pos hf).trans (if_pos hl)

theorem next_of_again (h : step p io x.session x.env = (.error f, s, e)) (hf : f.isRetryable)
    (hl : ¬limit.nanoseconds ≤ (clock.now e).1 - started) :
    next p io clock limit started x =
      .goes ⟨x.steps + 1, x.retries + 1, min (2 * x.pause) maxPause, s,
        clock.sleep (.ofMillis x.pause) (clock.now e).2⟩ := by
  rw [next, h]
  exact (if_pos hf).trans (if_neg hl)

end

/-! ### The whole handshake -/

/-- **One step of the driver**, by what is done behind it. -/
theorem drive_succ (fuel : ℕ) (x : Start σ ε) :
    x.drive p io clock limit started (fuel + 1) =
      match next p io clock limit started x with
      | .returns o => some o
      | .goes y => y.drive p io clock limit started fuel := by
  rcases h : step p io x.session x.env with ⟨f | _ | _, s, e⟩
  · by_cases hf : f.isRetryable
    · by_cases hl : limit.nanoseconds ≤ (clock.now e).1 - started
      · rw [next_of_expired h hf hl, Start.drive, driveFrom, h]
        exact (if_pos hf).trans (if_pos hl)
      · rw [next_of_again h hf hl, Start.drive, driveFrom, h]
        exact (if_pos hf).trans (if_neg hl)
    · rw [next_of_fatal h hf, Start.drive, driveFrom, h]
      exact if_neg hf
  · rw [next_of_progress h, Start.drive, driveFrom, h]
    rfl
  · rw [next_of_done h, Start.drive, driveFrom, h]

theorem drive_of_starts {x y : Start σ ε} {l : List (Start σ ε)}
    (h : Starts p io clock limit started x l y) (fuel : ℕ) :
    x.drive p io clock limit started (l.length + fuel) =
      y.drive p io clock limit started fuel := by
  induction h generalizing fuel with
  | refl => rw [List.length_nil, Nat.zero_add]
  | @step l y z _ hn ih =>
    rw [List.length_append, List.length_singleton, Nat.add_assoc, Nat.add_comm 1 fuel, ih,
      drive_succ, hn]

/-- **A handshake comes to what its last step comes to**, if fuel is left for that step. -/
theorem drive_eq_some_iff {fuel : ℕ} {x : Start σ ε} {o : Outcome σ ε} :
    x.drive p io clock limit started fuel = some o ↔
      ∃ l y, Starts p io clock limit started x l y ∧ l.length < fuel ∧
        next p io clock limit started y = .returns o := by
  constructor
  · intro h
    induction fuel generalizing x with
    | zero => cases h
    | succ fuel ih =>
      rw [drive_succ] at h
      split at h
      · next o' hn =>
        cases h
        exact ⟨[], x, .refl, Nat.succ_pos _, hn⟩
      · next y hn =>
        obtain ⟨l, z, hl, hlt, ho⟩ := ih h
        exact ⟨x :: l, z, hl.head hn, Nat.succ_lt_succ hlt, ho⟩
  · rintro ⟨l, y, hl, hlt, ho⟩
    obtain ⟨k, rfl⟩ := Nat.exists_eq_add_of_lt hlt
    rw [Nat.add_assoc, drive_of_starts hl, drive_succ, ho]

/-- **Why the driver goes on**: the step made progress, or it was not ready and time was left. -/
theorem goes_cases {x y : Start σ ε} (h : next p io clock limit started x = .goes y) :
    (∃ s e, step p io x.session x.env = (.ok .progress, s, e) ∧
      y = ⟨x.steps + 1, x.retries, initialPause, s, e⟩) ∨
    ∃ f s e, step p io x.session x.env = (.error f, s, e) ∧ f.isRetryable ∧
      (clock.now e).1 - started < limit.nanoseconds ∧
      y = ⟨x.steps + 1, x.retries + 1, min (2 * x.pause) maxPause, s,
        clock.sleep (.ofMillis x.pause) (clock.now e).2⟩ := by
  rcases hs : step p io x.session x.env with ⟨f | _ | _, s, e⟩
  · by_cases hf : f.isRetryable
    · by_cases hl : limit.nanoseconds ≤ (clock.now e).1 - started
      · rw [next_of_expired hs hf hl] at h
        cases h
      · rw [next_of_again hs hf hl] at h
        cases h
        exact .inr ⟨f, s, e, rfl, hf, Nat.lt_of_not_le hl, rfl⟩
    · rw [next_of_fatal hs hf] at h
      cases h
  · rw [next_of_progress hs] at h
    cases h
    exact .inl ⟨s, e, rfl, rfl⟩
  · rw [next_of_done hs] at h
    cases h

/-! ### The time of a step -/

/-- **A time that is never turned back**, and that the clock tells. -/
structure Timely (io : ByteStream ε) (clock : Clock ε) (time : ε → ℕ) : Prop where
  stream : io.Keeps fun e e' => time e ≤ time e'
  told : ∀ e, time e ≤ (clock.now e).1 ∧ (clock.now e).1 ≤ time (clock.now e).2
  sleep : ∀ d e, time e ≤ time (clock.sleep d e)

variable {time : ε → ℕ}

theorem Timely.le_step (h : Timely io clock time) {s s' : Session σ} {e e' : ε}
    {r : Except StreamFault Step} (hs : step p io s e = (r, s', e')) : time e ≤ time e' := by
  have := step_keeps h.stream p s e
  rwa [hs] at this

theorem Timely.le_goes (h : Timely io clock time) {x y : Start σ ε}
    (hn : next p io clock limit started x = .goes y) : time x.env ≤ time y.env := by
  obtain ⟨s, e, hs, rfl⟩ | ⟨f, s, e, hs, -, -, rfl⟩ := goes_cases hn
  · exact h.le_step hs
  · calc time x.env ≤ time e := h.le_step hs
      _ ≤ time (clock.now e).2 := Nat.le_trans (h.told e).1 (h.told e).2
      _ ≤ _ := h.sleep _ _

theorem Timely.le_now (h : Timely io clock time) {x : Start σ ε} {s : Session σ} {e : ε}
    {r : Except StreamFault Step} (hs : step p io x.session x.env = (r, s, e)) :
    time x.env ≤ (clock.now e).1 :=
  Nat.le_trans (h.le_step hs) (h.told e).1

theorem le_nanoseconds_ofMillis {n : ℕ} (h : 1 ≤ n) :
    1000000 ≤ (Duration.ofMillis n).nanoseconds := by
  rw [Duration.ofMillis, Duration.nanoseconds_ofNanoseconds, Duration.nanoseconds_longest]
  omega

/-- Pauses that last as long as they are asked to, `m` at least, leave little room for retries. -/
theorem retries_of_starts (h : Timely io clock time)
    (hp : ∀ d e, time e + d.nanoseconds ≤ time (clock.sleep d e)) {m : ℕ}
    (hm : ∀ n, 1 ≤ n → m ≤ (Duration.ofMillis n).nanoseconds) (hpos : 0 < m) {x y : Start σ ε}
    {l : List (Start σ ε)} (hx : x.retries = 0) (h₁ : 1 ≤ x.pause) (h₀ : started ≤ time x.env)
    (hs : Starts p io clock limit started x l y) :
    1 ≤ y.pause ∧ started + y.retries * m ≤ time y.env ∧
      y.retries * m < limit.nanoseconds + m := by
  induction hs with
  | refl =>
    rw [hx, Nat.zero_mul]
    exact ⟨h₁, h₀, Nat.add_pos_right _ hpos⟩
  | @step l y z _ hn ih =>
    obtain ⟨hpause, hslept, hlt⟩ := ih
    obtain ⟨s, e, hs, rfl⟩ | ⟨f, s, e, hs, -, hl, rfl⟩ := goes_cases hn <;> dsimp only
    · exact ⟨Nat.le_refl 1, Nat.le_trans hslept (h.le_step hs), hlt⟩
    · have hnow := h.le_now hs
      have htold := (h.told e).2
      have hsleep := hp (.ofMillis y.pause) (clock.now e).2
      have hlong := hm y.pause hpause
      rw [Nat.succ_mul y.retries]
      exact ⟨by rw [maxPause]; omega, by omega, by omega⟩

/-! ### What the budget bounds -/

/-- **The handshake of `s` in `e` started the steps `l`, and then the one at `y`.** -/
def Begun (p : Protocol σ) (io : ByteStream ε) (clock : Clock ε) (limit : Duration)
    (s : Session σ) (e : ε) : List (Start σ ε) → Start σ ε → Prop :=
  Starts p io clock limit (clock.now e).1 (.first clock s e)

/-- **The step is started when the budget is used up.** -/
def Late (time : ε → ℕ) (clock : Clock ε) (limit : Duration) (e : ε) (y : Start σ ε) : Prop :=
  (clock.now e).1 + limit.nanoseconds ≤ time y.env

variable {s : Session σ} {e : ε} {y z : Start σ ε} {l : List (Start σ ε)}

theorem Late.goes (h : Timely io clock time) (hy : Late time clock limit e y)
    (hn : next p io clock limit started y = .goes z) : Late time clock limit e z :=
  Nat.le_trans hy (h.le_goes hn)

/-- **A late step that is not ready is the last.** -/
theorem Late.next_eq_timeout (h : Timely io clock time) (hy : Late time clock limit e y)
    {f : StreamFault} (hs : (step p io y.session y.env).1 = .error f) (hf : f.isRetryable) :
    ∃ s' e', next p io clock limit (clock.now e).1 y = .returns (.error .timeout, s', e') := by
  rcases hr : step p io y.session y.env with ⟨r, s', e'⟩
  rw [hr] at hs
  dsimp only at hs
  subst hs
  refine ⟨s', _, next_of_expired hr hf (Nat.le_sub_of_add_le ?_)⟩
  rw [Nat.add_comm]
  exact Nat.le_trans (m := time y.env) hy (h.le_now hr)

/-- **A late step is followed by another one exactly if it made progress.** -/
theorem Late.goes_iff (h : Timely io clock time) (hy : Late time clock limit e y) :
    (∃ z, next p io clock limit (clock.now e).1 y = .goes z) ↔
      (step p io y.session y.env).1 = .ok .progress := by
  constructor
  · rintro ⟨z, hn⟩
    obtain ⟨s', e', hs, -⟩ | ⟨f, s', e', hs, hf, -, -⟩ := goes_cases hn
    · rw [hs]
    · obtain ⟨_, _, ho⟩ := hy.next_eq_timeout h (f := f) (by rw [hs]) hf
      rw [hn] at ho
      cases ho
  · intro hs
    rcases hr : step p io y.session y.env with ⟨r, s', e'⟩
    rw [hr] at hs
    dsimp only at hs
    subst hs
    exact ⟨_, next_of_progress hr⟩

/-- The step behind a late one that did not make progress is not started. -/
theorem not_late_of_begun (h : Timely io clock time)
    (hp : ∀ l y, Begun p io clock limit s e l y → Late time clock limit e y →
      (step p io y.session y.env).1 ≠ .ok .progress)
    (hs : Begun p io clock limit s e l y) : ∀ x ∈ l, ¬Late time clock limit e x := by
  unfold Begun at hs hp
  induction hs with
  | refl => exact fun _ hx => absurd hx List.not_mem_nil
  | @step l y z hy hn ih =>
    intro x hx
    rcases List.mem_append.mp hx with hx | hx
    · exact ih x hx
    · rw [List.mem_singleton.mp hx]
      exact fun hl => hp l y hy hl ((hl.goes_iff h).mp ⟨z, hn⟩)

/-- **What the budget of a handshake bounds, and what it does not.** At most one step is started
when the budget is used up, exactly if no such step makes progress. A step that is started then and
is not ready ends the handshake with a timeout; and where pauses last, the budget bounds the
retries. -/
theorem late_starts_iff (h : Timely io clock time) (p : Protocol σ) (limit : Duration)
    (s : Session σ) (e : ε) :
    ((∀ l y, Begun p io clock limit s e l y → Late time clock limit e y →
        ∀ x ∈ l, ¬Late time clock limit e x) ↔
      ∀ l y, Begun p io clock limit s e l y → Late time clock limit e y →
        (step p io y.session y.env).1 ≠ .ok .progress) ∧
    (∀ l y f, Begun p io clock limit s e l y → Late time clock limit e y →
      (step p io y.session y.env).1 = .error f → f.isRetryable →
      ∃ s' e', next p io clock limit (clock.now e).1 y = .returns (.error .timeout, s', e')) ∧
    ((∀ d e, time e + d.nanoseconds ≤ time (clock.sleep d e)) →
      ∀ l y, Begun p io clock limit s e l y →
        y.retries * 1000000 < limit.nanoseconds + 1000000) ∧
    ∀ fuel o, drive p io clock (some limit) fuel s e = some o ↔
      ∃ l y, Begun p io clock limit s e l y ∧ l.length < fuel ∧
        next p io clock limit (clock.now e).1 y = .returns o := by
  refine ⟨⟨fun hone l y hy hl hs => ?_, fun hp l y hy _ => not_late_of_begun h hp hy⟩,
    fun l y f _ hl hs hf => hl.next_eq_timeout h hs hf, fun hp l y hy => ?_,
    fun fuel o => drive_eq_some_iff (x := .first clock s e)⟩
  · -- the step behind progress is started late as well
    obtain ⟨z, hn⟩ := (hl.goes_iff h).mpr hs
    exact hone (l ++ [y]) z (.step hy hn) (hl.goes h hn) y (by simp) hl
  · obtain ⟨-, -, hlt⟩ := retries_of_starts h hp (fun _ => le_nanoseconds_ofMillis) (by decide) rfl
      (Nat.le_refl 1) (h.told e).2 hy
    exact hlt

/-! ### A peer that brings one octet at a time -/

/-- **A peer that drips**: it brings one octet each `d` nanoseconds. The environment is the time. -/
def dripping (d : ℕ) : ByteStream ℕ where
  read _ t := (.ok [0], t + d)
  write b t := (.ok b.length, t)

/-- A clock that tells the time right. -/
def wallClock : Clock ℕ where
  now t := (t, t)
  sleep d t := t + d.nanoseconds

/-- A protocol whose handshake waits for a number of octets. -/
def awaiting : Protocol ℕ where
  start _ source := (.ok (1, []), source)
  isHandshaking n := n != 0
  room n := (some 1, n)
  feed n b := n - b.length
  process n := ⟨n, [], [], false, none⟩
  write n _ b := ⟨n, b.length, []⟩
  closeNotify n := (n, [])
  agreement _ := ⟨none, none, none, none⟩

theorem timely_dripping (d : ℕ) : Timely (dripping d) wallClock fun t => t where
  stream := ⟨Nat.le_refl, Nat.le_trans, fun _ t => Nat.le_add_right t d, fun _ => Nat.le_refl⟩
  told t := ⟨Nat.le_refl t, Nat.le_refl t⟩
  sleep d t := Nat.le_add_right t d.nanoseconds

theorem step_dripping (d n t : ℕ) :
    step awaiting (dripping d) (.fresh (n + 1) []) t =
      (.ok .progress, .fresh n [], t + d) := rfl

/-- A nanosecond is allowed and each octet takes one: the second step is started late, and so is the
third. -/
theorem late_starts_iff_dripping :
    Timely (dripping 1) wallClock (fun t => t) ∧
      ¬∀ l y, Begun awaiting (dripping 1) wallClock ⟨0, 1, by decide, by decide⟩ (.fresh 2 []) 0 l y →
        Late (fun t => t) wallClock ⟨0, 1, by decide, by decide⟩ 0 y →
        ∀ x ∈ l, ¬Late (fun t => t) wallClock ⟨0, 1, by decide, by decide⟩ 0 x := by
  refine ⟨timely_dripping 1, fun hone => ?_⟩
  refine (late_starts_iff (timely_dripping 1) awaiting _ (.fresh 2 []) 0).1.mp hone
    [.first wallClock (.fresh 2 []) 0] ⟨1, 0, initialPause, .fresh 1 [], 1⟩ ?_ ?_ ?_
  · exact .step (l := []) .refl (next_of_progress (step_dripping 1 1 0))
  · simp [Late, wallClock, Duration.nanoseconds]
  · rw [step_dripping 1 0 1]

end SecureStream.Handshake
