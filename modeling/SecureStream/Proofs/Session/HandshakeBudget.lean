import SecureStream.Duration

/-! # The budget of a handshake

Zero stands for the absence of a limit, in the limit that is given and in both timeouts of the
socket (`NoLimit`). Where there is a limit it is the budget. Otherwise the budget is four times the
longer timeout, counted in nanoseconds and cut at the longest span (`handshakeBudget_eq_some_iff`).
So it follows the order of the timeouts, also where four times the timeout is no span any more.

* `handshakeBudget_exact`: what the budget is, and how it follows the timeouts. -/

namespace SecureStream

namespace Duration

theorem nanoseconds_le_longest (d : Duration) : d.nanoseconds ≤ longest.nanoseconds := by
  have hs := d.seconds_lt
  have hn := d.nanos_lt
  rw [nanoseconds_longest]
  simp only [nanoseconds, secondsLimit, nanosPerSecond] at hs hn ⊢
  omega

theorem longer_comm (d e : Duration) : d.longer e = e.longer d :=
  ext_nanoseconds (by rw [nanoseconds_longer, nanoseconds_longer, Nat.max_comm])

theorem isZero_longer_iff {d e : Duration} :
    (d.longer e).isZero = true ↔ d.nanoseconds = 0 ∧ e.nanoseconds = 0 := by
  rw [isZero_iff, nanoseconds_longer]
  omega

end Duration

/-- **No limit is given**: none, or zero, which stands for none. -/
def NoLimit (explicit : Option Duration) : Prop :=
  ∀ limit, explicit = some limit → limit.nanoseconds = 0

variable {explicit : Option Duration} {r s r' s' d : Duration}

theorem limit_or_noLimit (explicit : Option Duration) :
    (∃ limit, explicit = some limit ∧ limit.nanoseconds ≠ 0) ∨ NoLimit explicit := by
  cases explicit with
  | none => exact .inr fun _ he => nomatch he
  | some limit =>
    by_cases hl : limit.nanoseconds = 0
    · exact .inr fun _ he => Option.some.inj he ▸ hl
    · exact .inl ⟨limit, rfl, hl⟩

/-- **A limit is the budget.** -/
theorem handshakeBudget_of_limit {limit : Duration} (h : limit.nanoseconds ≠ 0) :
    handshakeBudget (some limit) r s = some limit := by
  have hz : ¬limit.isZero = true := fun hz => h (Duration.isZero_iff.mp hz)
  have hb : (some limit).bind Duration.nonzero? = some limit := if_neg hz
  rw [handshakeBudget, hb]

theorem handshakeBudget_of_noLimit (h : NoLimit explicit) :
    handshakeBudget explicit r s =
      if (r.longer s).isZero then none
      else some ((r.longer s).saturatingMul handshakeRoundTrips) := by
  have hb : explicit.bind Duration.nonzero? = none := by
    cases explicit with
    | none => rfl
    | some limit => exact if_pos (Duration.isZero_iff.mpr (h limit rfl))
  rw [handshakeBudget, hb]

theorem handshakeBudget_eq_none_iff (h : NoLimit explicit) :
    handshakeBudget explicit r s = none ↔ r.nanoseconds = 0 ∧ s.nanoseconds = 0 := by
  rw [handshakeBudget_of_noLimit h, ← Duration.isZero_longer_iff]
  split
  · next hz => exact iff_of_true rfl hz
  · next hz => exact iff_of_false (Option.some_ne_none _) hz

theorem exists_handshakeBudget (h : NoLimit explicit)
    (hset : 0 < r.nanoseconds ∨ 0 < s.nanoseconds) :
    ∃ d, handshakeBudget explicit r s = some d := by
  rw [← Option.ne_none_iff_exists', ne_eq, handshakeBudget_eq_none_iff h]
  omega

/-- **A derived budget** is four times the longer timeout, as far as there are spans. -/
theorem handshakeBudget_eq_some_iff (h : NoLimit explicit) :
    handshakeBudget explicit r s = some d ↔
      ¬(r.nanoseconds = 0 ∧ s.nanoseconds = 0) ∧
        d.nanoseconds =
          min (4 * max r.nanoseconds s.nanoseconds) Duration.longest.nanoseconds := by
  have hd : ((r.longer s).saturatingMul handshakeRoundTrips).nanoseconds =
      min (4 * max r.nanoseconds s.nanoseconds) Duration.longest.nanoseconds := by
    rw [Duration.nanoseconds_saturatingMul, Duration.nanoseconds_longer, Nat.mul_comm,
      handshakeRoundTrips]
  rw [handshakeBudget_of_noLimit h, ← Duration.isZero_longer_iff, ← hd]
  split
  · next hz => exact iff_of_false (fun he => Option.some_ne_none _ he.symm) fun hn => hn.1 hz
  · next hz =>
    rw [Option.some.injEq]
    exact ⟨fun he => ⟨hz, congrArg _ he.symm⟩, fun hn => Duration.ext_nanoseconds hn.2.symm⟩

theorem nanoseconds_le_of_handshakeBudget (h : NoLimit explicit)
    (hd : handshakeBudget explicit r s = some d) :
    r.nanoseconds ≤ d.nanoseconds ∧ s.nanoseconds ≤ d.nanoseconds := by
  have hr := r.nanoseconds_le_longest
  have hs := s.nanoseconds_le_longest
  rw [((handshakeBudget_eq_some_iff h).mp hd).2]
  omega

theorem nanoseconds_pos_of_handshakeBudget (hd : handshakeBudget explicit r s = some d) :
    0 < d.nanoseconds := by
  rcases limit_or_noLimit explicit with ⟨limit, rfl, hl⟩ | h
  · rw [handshakeBudget_of_limit hl] at hd
    cases hd
    exact Nat.pos_of_ne_zero hl
  · have hle := nanoseconds_le_of_handshakeBudget h hd
    have hne := ((handshakeBudget_eq_some_iff h).mp hd).1
    omega

theorem handshakeBudget_comm (explicit : Option Duration) (r s : Duration) :
    handshakeBudget explicit r s = handshakeBudget explicit s r := by
  rw [handshakeBudget, handshakeBudget, Duration.longer_comm]

/-- **Longer timeouts never give less**, if one of them was set before. -/
theorem handshakeBudget_mono (hset : 0 < r.nanoseconds ∨ 0 < s.nanoseconds)
    (hr : r.nanoseconds ≤ r'.nanoseconds) (hs : s.nanoseconds ≤ s'.nanoseconds) :
    ∃ d d', handshakeBudget explicit r s = some d ∧ handshakeBudget explicit r' s' = some d' ∧
      d.nanoseconds ≤ d'.nanoseconds := by
  rcases limit_or_noLimit explicit with ⟨limit, rfl, hl⟩ | h
  · exact ⟨limit, limit, handshakeBudget_of_limit hl, handshakeBudget_of_limit hl, Nat.le_refl _⟩
  · have hset' : 0 < r'.nanoseconds ∨ 0 < s'.nanoseconds := by omega
    obtain ⟨d, hd⟩ := exists_handshakeBudget h hset
    obtain ⟨d', hd'⟩ := exists_handshakeBudget h hset'
    refine ⟨d, d', hd, hd', ?_⟩
    rw [((handshakeBudget_eq_some_iff h).mp hd).2, ((handshakeBudget_eq_some_iff h).mp hd').2]
    omega

/-- **The budget of a handshake.** A limit that is not zero is the budget. Otherwise there is none
exactly if no timeout is set, and else it is four times the longer timeout, cut at the longest span;
so it is no shorter than either timeout. It is never zero, does not depend on which timeout is
which, and once a timeout is set longer ones do not shorten it. -/
theorem handshakeBudget_exact (explicit : Option Duration) (r s : Duration) :
    (∀ limit, explicit = some limit → limit.nanoseconds ≠ 0 →
      handshakeBudget explicit r s = some limit) ∧
    (NoLimit explicit →
      (handshakeBudget explicit r s = none ↔ r.nanoseconds = 0 ∧ s.nanoseconds = 0) ∧
      (∀ d, handshakeBudget explicit r s = some d ↔
        ¬(r.nanoseconds = 0 ∧ s.nanoseconds = 0) ∧
          d.nanoseconds =
            min (4 * max r.nanoseconds s.nanoseconds) Duration.longest.nanoseconds) ∧
      ∀ d, handshakeBudget explicit r s = some d →
        r.nanoseconds ≤ d.nanoseconds ∧ s.nanoseconds ≤ d.nanoseconds) ∧
    (∀ d, handshakeBudget explicit r s = some d → 0 < d.nanoseconds) ∧
    handshakeBudget explicit r s = handshakeBudget explicit s r ∧
    ∀ r' s' : Duration, 0 < r.nanoseconds ∨ 0 < s.nanoseconds →
      r.nanoseconds ≤ r'.nanoseconds → s.nanoseconds ≤ s'.nanoseconds →
      ∃ d d', handshakeBudget explicit r s = some d ∧ handshakeBudget explicit r' s' = some d' ∧
        d.nanoseconds ≤ d'.nanoseconds := by
  refine ⟨fun limit he hl => ?_, fun h => ⟨handshakeBudget_eq_none_iff h,
    fun d => handshakeBudget_eq_some_iff h, fun d => nanoseconds_le_of_handshakeBudget h⟩,
    fun d => nanoseconds_pos_of_handshakeBudget, handshakeBudget_comm explicit r s,
    fun r' s' => handshakeBudget_mono⟩
  rw [he, handshakeBudget_of_limit hl]

/-- A limit of zero, with a timeout of which four are just short of the longest span. One
nanosecond more, and the budget is the longest span. -/
theorem handshakeBudget_exact_saturated :
    let r : Duration := { seconds := 4611686018427387903, nanos := 999999999 }
    let r' : Duration := { seconds := 4611686018427387904, nanos := 0 }
    let s : Duration := { seconds := 5, nanos := 0 }
    let d : Duration := { seconds := 18446744073709551615, nanos := 999999996 }
    handshakeBudget (some .zero) r s = some d ∧
      handshakeBudget (some .zero) s r = some d ∧
      r.nanoseconds ≤ d.nanoseconds ∧ 0 < d.nanoseconds ∧
      handshakeBudget (some .zero) r' s = some .longest ∧
      (∃ d d', handshakeBudget (some .zero) r s = some d ∧
        handshakeBudget (some .zero) r' s = some d' ∧ d.nanoseconds ≤ d'.nanoseconds) ∧
      handshakeBudget (some s) r .zero = some s := by
  intro r r' s d
  have hno : NoLimit (some .zero) := fun _ he => Option.some.inj he ▸ rfl
  obtain ⟨-, hderived, hpos, hcomm, hmono⟩ := handshakeBudget_exact (some .zero) r s
  obtain ⟨-, hderived', -⟩ := handshakeBudget_exact (some .zero) r' s
  obtain ⟨hlimit, -⟩ := handshakeBudget_exact (some s) r .zero
  have hd := ((hderived hno).2.1 d).mpr ⟨by decide, by decide⟩
  have hd' := ((hderived' hno).2.1 .longest).mpr ⟨by decide, by decide⟩
  exact ⟨hd, hcomm ▸ hd, ((hderived hno).2.2 d hd).1, hpos d hd, hd',
    hmono r' s (by decide) (by decide) (by decide), hlimit s rfl (by decide)⟩

end SecureStream
