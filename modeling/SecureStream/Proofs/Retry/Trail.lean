import SecureStream.Proofs.Retry.Channel

/-! # One channel behind another

A channel whose script has faults inserted trails one without them (`Trails`): apart from the faults
the two are on the same way, one further on than the other. A flush keeps this and does not fail for
good, if the other channel is calm (`Trails.flush`). Where the other channel has nothing left to
send, every flush that does not get there brings it nearer (`Behind.flush_error`). -/

namespace SecureStream.Channel

open Script

/-- **Nothing waits, or nothing fails for good any more.** -/
def Calm (c : Channel) : Prop := c.queue = [] ∨ ∀ i, ¬Fails (c.sends.get i)

theorem Flushes.calm {c d : Channel} {r : Except StreamFault Unit} (h : Flushes c r d)
    (ho : Orderly c.sends) (hr : ∀ f, r = .error f → f.isRetryable) : d.Calm ∧ Orderly d.sends := by
  cases h with
  | all h hd => exact ⟨.inl hd, h.sends (P := Orderly) (fun _ h => h.tail) ho⟩
  | waits h hw hd _ =>
    have ho' := h.sends (P := Orderly) (fun _ h => h.tail) ho
    rw [Calm, sends_of_next? hd]
    exact ⟨.inr (ho'.not_fails hw), ho'.tail⟩
  | fails _ _ _ hf => exact absurd (hr _ rfl) hf

theorem Flushes.path {c d : Channel} {r : Except StreamFault Unit} (h : Flushes c r d)
    (hr : ∀ f, r = .error f → f.isRetryable) : ∃ n, Path n c d := by
  cases h with
  | all h _ => exact ⟨_, h⟩
  | waits h _ hd _ => exact ⟨_, h.trans (.cons hd .nil)⟩
  | fails _ _ _ hf => exact absurd (hr _ rfl) hf

/-! ### Without the faults -/

theorem erase_next? {c d : Channel} {n : ℕ} {s : Stream' (Except IoError ℕ)}
    (h : c.next? = some d) (hi : Inserted n s c.sends) :
    (∃ m, n = m + 1 ∧ ({ d with sends := s } : Channel) = { c with sends := s } ∧
      Inserted m s d.sends) ∨
    (({ c with sends := s } : Channel).next? = some { d with sends := s.tail } ∧
      Inserted n s.tail d.sends) := by
  have hd := sends_of_next? h
  obtain ⟨queue, sends, wire⟩ := c
  obtain ⟨record, rest, rfl⟩ : ∃ record rest, queue = record :: rest := by
    refine List.exists_cons_of_ne_nil fun hq => ?_
    rw [next?_of_empty hq] at h
    cases h
  rcases hi.head with ⟨hh, ht⟩ | ⟨m, x, rfl, hh, hx, ht⟩
  · right
    rw [hd]
    refine ⟨?_, ht⟩
    dsimp only at hh
    cases hs : s.head with
    | ok n =>
      rw [hs] at hh
      simp only [next?, hh, Option.some.injEq] at h
      subst h
      simp only [next?, hs]
    | error x =>
      rw [hs] at hh
      simp only [next?, hh, Option.ite_none_right_eq_some, Option.some.injEq] at h
      obtain ⟨hx, rfl⟩ := h
      simp only [next?, hs, if_pos hx]
  · left
    rw [hd]
    refine ⟨m, rfl, ?_, ht⟩
    dsimp only at hh
    simp only [next?, hh, if_pos hx, Option.some.injEq] at h
    rw [← h]

/-- **The way without the faults**: the answers are those on the way and not inserted. -/
theorem Path.erase {k n : ℕ} {c d : Channel} {s : Stream' (Except IoError ℕ)} (h : Path k c d)
    (hi : Inserted n s c.sends) :
    ∃ i m t, i + n = k + m ∧ Path i { c with sends := s } { d with sends := t } ∧
      Inserted m t d.sends := by
  induction h generalizing n s with
  | nil => exact ⟨0, n, s, rfl, .nil, hi⟩
  | cons hn _ ih =>
    rcases erase_next? hn hi with ⟨m, rfl, he, hm⟩ | ⟨he, hm⟩
    · obtain ⟨i, m', t, hc, hp, ht⟩ := ih hm
      rw [he] at hp
      exact ⟨i, m', t, by omega, hp, ht⟩
    · obtain ⟨i, m', t, hc, hp, ht⟩ := ih hm
      exact ⟨i + 1, m', t, by omega, .cons he hp, ht⟩

/-! ### On one way -/

/-- Of two channels one is further on. -/
def Level (c d : Channel) : Prop := (∃ n, Path n c d) ∨ ∃ n, Path n d c

theorem Level.symm {c d : Channel} (h : Level c d) : Level d c := Or.symm h

theorem Level.ahead {c d e : Channel} {k : ℕ} (h : Level c d) (hp : Path k d e) : Level c e := by
  rcases h with ⟨n, hn⟩ | ⟨n, hn⟩
  · exact .inl ⟨_, hn.trans hp⟩
  · rcases hn.compare hp with ⟨j, -, hj⟩ | ⟨j, -, hj⟩
    · exact .inl ⟨j, hj⟩
    · exact .inr ⟨j, hj⟩

theorem Level.total {c d : Channel} (h : Level c d) : c.total = d.total := by
  rcases h with ⟨n, hn⟩ | ⟨n, hn⟩
  · exact hn.total.symm
  · exact hn.total

theorem Level.add {c d : Channel} (h : Level c d) (records : List Bytes) :
    Level (c.add records) (d.add records) := by
  rcases h with ⟨n, hn⟩ | ⟨n, hn⟩
  · exact .inl ⟨n, hn.add records⟩
  · exact .inr ⟨n, hn.add records⟩

/-- **The first channel trails the second**: without its faults it is on the same way. -/
def Trails (c d : Channel) : Prop :=
  ∃ n s, Inserted n s c.sends ∧ Level { c with sends := s } d

theorem Trails.ahead {c d e : Channel} {k : ℕ} (h : Trails c d) (hp : Path k d e) :
    Trails c e := by
  obtain ⟨n, s, hi, hl⟩ := h
  exact ⟨n, s, hi, hl.ahead hp⟩

theorem Trails.behind_path {c d e : Channel} {k : ℕ} (h : Trails c d) (hp : Path k c e) :
    Trails e d := by
  obtain ⟨n, s, hi, hl⟩ := h
  obtain ⟨i, m, t, -, hp, hi⟩ := hp.erase hi
  exact ⟨m, t, hi, (hl.symm.ahead hp).symm⟩

theorem Trails.add {c d : Channel} (h : Trails c d) (records : List Bytes) :
    Trails (c.add records) (d.add records) := by
  obtain ⟨n, s, hi, hl⟩ := h
  exact ⟨n, s, hi, hl.add records⟩

theorem Trails.total {c d : Channel} (h : Trails c d) : c.total = d.total := by
  obtain ⟨n, s, -, hl⟩ := h
  exact hl.total

/-- **A flush behind a calm channel** does not fail for good. -/
theorem Trails.flush {c d e : Channel} {r : Except StreamFault Unit} (h : Trails c d)
    (hd : d.Calm) (hf : Flushes c r e) : (∀ f, r = .error f → f.isRetryable) ∧ Trails e d := by
  have hr : ∀ f, r = .error f → f.isRetryable := by
    cases hf with
    | all _ _ => simp
    | waits _ _ _ hf =>
      intro g hg
      obtain rfl := Except.error.inj hg
      exact hf
    | @fails n c₁ f hp hq hw hf =>
      exfalso
      -- without the faults the channel is stuck here, so the calm one did not come further
      obtain ⟨m, s, hi, hl⟩ := h.behind_path hp
      have hs : Fails s.head := by
        rcases hi.head with ⟨hh, -⟩ | ⟨_, x, -, hh, hx, -⟩
        · rwa [hh] at hw
        · rw [hh] at hw
          exact absurd hx hw
      have hstuck : ({ c₁ with sends := s } : Channel).next? = none := next?_of_fails hs
      rcases hd with hd | hd
      · have : ({ c₁ with sends := s } : Channel) = d := by
          rcases hl with ⟨k, hk⟩ | ⟨k, hk⟩
          · exact (hk.of_stuck hstuck).2.symm
          · exact (hk.of_stuck (next?_of_empty hd)).2
        exact hq (by rw [← this] at hd; exact hd)
      · rcases hl with ⟨k, hk⟩ | ⟨k, hk⟩
        · rw [(hk.of_stuck hstuck).2] at hd
          exact hd 0 hs
        · exact hk.sends (P := fun s => ∀ i, ¬Fails (s.get i)) (fun _ h i => h (i + 1)) hd 0 hs
  obtain ⟨n, hp⟩ := hf.path hr
  exact ⟨hr, h.behind_path hp⟩

/-! ### Catching up -/

/-- **The first channel comes to the second** by `k` answers and some faults, `N` together. -/
def Behind (N : ℕ) (c d : Channel) : Prop :=
  ∃ n k s, n + k = N ∧ Inserted n s c.sends ∧ Path k { c with sends := s } d

theorem Trails.behind {c d : Channel} (h : Trails c d) (hd : d.queue = []) :
    ∃ N, Behind N c d := by
  obtain ⟨n, s, hi, ⟨k, hk⟩ | ⟨k, hk⟩⟩ := h
  · exact ⟨n + k, n, k, s, rfl, hi, hk⟩
  · have he := (hk.of_stuck (next?_of_empty hd)).2
    exact ⟨n, n, 0, s, rfl, hi, he ▸ .nil⟩

theorem Behind.flush_error {N : ℕ} {c d e : Channel} {f : StreamFault} (h : Behind N c d)
    (hd : d.queue = []) (hf : Flushes c (.error f) e) (hr : f.isRetryable) :
    ∃ M < N, Behind M e d := by
  obtain ⟨n, k, s, rfl, hi, hk⟩ := h
  cases hf with
  | waits hp _ he _ =>
    obtain ⟨i, m, t, hc, hp, hi⟩ := (hp.trans (.cons he .nil)).erase hi
    rcases hp.compare hk with ⟨j, rfl, hj⟩ | ⟨j, rfl, hj⟩
    · exact ⟨m + j, by omega, m, j, t, rfl, hi, hj⟩
    · obtain ⟨rfl, he⟩ := hj.of_stuck (next?_of_empty hd)
      rw [← he] at hj
      exact ⟨m, by omega, m, 0, t, rfl, hi, he ▸ .nil⟩
  | fails _ _ _ hf => exact absurd hr hf

end SecureStream.Channel
