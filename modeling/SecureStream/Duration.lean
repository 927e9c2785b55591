/-! # Durations

A span of time in whole seconds, below `2 ^ 64`, and nanoseconds, below `10 ^ 9`.

* `nanoseconds`: the span as one number; `le_iff`, `isZero_iff` read comparisons off it.
* `saturatingMul`: multiplication that stops at the longest span (`nanoseconds_saturatingMul`).
* `render`: seconds, a point, nine digits.
* `handshakeBudget`: the time allowed for a handshake, by an explicit limit or else by the timeouts
  of the socket. -/

namespace SecureStream

/-- Nanoseconds in a second. -/
def nanosPerSecond : Nat := 1000000000

/-- The number of second counts. -/
def secondsLimit : Nat := 18446744073709551616

/-- A span of time. -/
structure Duration where
  seconds : Nat
  nanos : Nat
  seconds_lt : seconds < secondsLimit := by decide
  nanos_lt : nanos < nanosPerSecond := by decide
deriving DecidableEq

namespace Duration

/-- The whole span in nanoseconds. -/
def nanoseconds (d : Duration) : Nat := d.seconds * nanosPerSecond + d.nanos

theorem ext_nanoseconds {d e : Duration} (h : d.nanoseconds = e.nanoseconds) : d = e := by
  obtain ⟨s, n, hs, hn⟩ := d
  obtain ⟨t, m, ht, hm⟩ := e
  simp only [nanoseconds, nanosPerSecond] at h hn hm
  have : s = t := by omega
  have : n = m := by omega
  subst_vars; rfl

/-- The empty span. -/
def zero : Duration := ⟨0, 0, by decide, by decide⟩

/-- The longest span. -/
def longest : Duration := ⟨18446744073709551615, 999999999, by decide, by decide⟩

theorem nanoseconds_longest : longest.nanoseconds = 18446744073709551615999999999 := by decide

/-- The span of that many nanoseconds, at most the longest. -/
def ofNanoseconds (n : Nat) : Duration :=
  if h : n / nanosPerSecond < secondsLimit then
    ⟨n / nanosPerSecond, n % nanosPerSecond, h, Nat.mod_lt _ (by decide)⟩
  else longest

/-- **Every number of nanoseconds that fits is that of a span.** -/
theorem nanoseconds_ofNanoseconds (n : Nat) :
    (ofNanoseconds n).nanoseconds = min n longest.nanoseconds := by
  rw [nanoseconds_longest]
  unfold ofNanoseconds
  split
  · next h =>
    simp only [nanoseconds, secondsLimit, nanosPerSecond] at h ⊢
    omega
  · next h =>
    rw [nanoseconds_longest]
    simp only [secondsLimit, nanosPerSecond] at h
    omega

/-- The span of that many milliseconds, at most the longest. -/
def ofMillis (n : Nat) : Duration := ofNanoseconds (n * 1000000)

/-- Whether the span is empty. -/
def isZero (d : Duration) : Bool := d.seconds == 0 && d.nanos == 0

theorem isZero_iff {d : Duration} : d.isZero = true ↔ d.nanoseconds = 0 := by
  simp only [isZero, nanoseconds, nanosPerSecond, Bool.and_eq_true, beq_iff_eq]
  omega

/-- The order of lengths: seconds first, then nanoseconds. -/
def le (d e : Duration) : Bool :=
  d.seconds < e.seconds || (d.seconds == e.seconds && d.nanos ≤ e.nanos)

theorem le_iff {d e : Duration} : d.le e = true ↔ d.nanoseconds ≤ e.nanoseconds := by
  have h1 := d.nanos_lt
  have h2 := e.nanos_lt
  simp only [nanosPerSecond] at h1 h2
  simp only [le, nanoseconds, nanosPerSecond, Bool.or_eq_true, Bool.and_eq_true,
    decide_eq_true_eq, beq_iff_eq]
  omega

/-- The longer of two spans. -/
def longer (d e : Duration) : Duration := if d.le e then e else d

theorem nanoseconds_longer (d e : Duration) :
    (d.longer e).nanoseconds = max d.nanoseconds e.nanoseconds := by
  unfold longer
  split
  · next h => rw [le_iff] at h; omega
  · next h => rw [le_iff] at h; omega

/-- The span `k` times, at most the longest: the nanoseconds carry into the seconds. -/
def saturatingMul (d : Duration) (k : Nat) : Duration :=
  if h : d.seconds * k + d.nanos * k / nanosPerSecond < secondsLimit then
    ⟨d.seconds * k + d.nanos * k / nanosPerSecond, d.nanos * k % nanosPerSecond, h,
      Nat.mod_lt _ (by decide)⟩
  else longest

/-- **Multiplication stops at the longest span.** -/
theorem nanoseconds_saturatingMul (d : Duration) (k : Nat) :
    (d.saturatingMul k).nanoseconds = min (d.nanoseconds * k) longest.nanoseconds := by
  have hd : d.nanoseconds * k = d.seconds * k * nanosPerSecond + d.nanos * k := by
    rw [nanoseconds, Nat.add_mul, Nat.mul_right_comm]
  rw [hd, nanoseconds_longest]
  unfold saturatingMul
  split
  · next h =>
    simp only [nanoseconds, secondsLimit, nanosPerSecond] at h ⊢
    omega
  · next h =>
    rw [nanoseconds_longest]
    simp only [secondsLimit, nanosPerSecond] at h ⊢
    omega

/-- Zero stands for the absence of a limit. -/
def nonzero? (d : Duration) : Option Duration := if d.isZero then none else some d

/-- Left-pads a number to nine digits. -/
def nineDigits (n : Nat) : String :=
  String.ofList (List.leftpad 9 '0' (toString n).toList)

/-- Seconds, a point, and nine digits of nanoseconds. -/
def render (d : Duration) : String := toString d.seconds ++ "." ++ nineDigits d.nanos

end Duration

/-! ### The time allowed for a handshake -/

/-- The round trips that a handshake may take when no limit is given. -/
def handshakeRoundTrips : Nat := 4

/-- **The time allowed for a handshake**, `none` for no limit. An explicit limit that is not zero
wins. Otherwise the longer socket timeout is allowed for a few round trips; without socket timeouts
the handshake is unbounded. -/
def handshakeBudget (explicit : Option Duration) (recvTimeout sendTimeout : Duration) :
    Option Duration :=
  match explicit.bind Duration.nonzero? with
  | some limit => some limit
  | none =>
    let base := recvTimeout.longer sendTimeout
    if base.isZero then none else some (base.saturatingMul handshakeRoundTrips)

end SecureStream
