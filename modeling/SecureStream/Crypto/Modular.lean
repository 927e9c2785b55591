/-! # Arithmetic modulo a number

* `power`: powers by repeated squaring; `power_eq` says that it is the power.
* `inverse`: inverses modulo a prime, as powers. -/

namespace SecureStream.Crypto.Modular

/-- The difference, not below zero. -/
def sub (m a b : Nat) : Nat := (a + (m - b % m)) % m

/-- **The power of a number**, by repeated squaring. -/
def power (m b e : Nat) : Nat :=
  if e = 0 then 1 % m
  else
    let half := power m (b * b % m) (e / 2)
    if e % 2 = 1 then half * b % m else half
termination_by e
decreasing_by omega

theorem power_eq (m b e : Nat) : power m b e = Nat.pow b e % m := by
  rw [Nat.pow_eq]
  induction e using Nat.strongRecOn generalizing b with
  | ind e ih =>
    unfold power
    split
    · next h => simp [h]
    · next h =>
      have hlt : e / 2 < e := by omega
      have hsq : power m (b * b % m) (e / 2) = b ^ (2 * (e / 2)) % m := by
        rw [ih _ hlt, ← Nat.pow_mod, ← Nat.pow_two, ← Nat.pow_mul]
      simp only [hsq]
      split
      · next odd =>
        have he : 2 * (e / 2) + 1 = e := by omega
        rw [Nat.mod_mul_mod, ← Nat.pow_succ, Nat.succ_eq_add_one, he]
      · next even =>
        have he : 2 * (e / 2) = e := by omega
        rw [he]

/-- The inverse modulo a prime. -/
def inverse (p a : Nat) : Nat := power p a (p - 2)

/-- Whether a number is prime, by trial. -/
def isPrime (n : Nat) : Bool := 2 ≤ n && (List.range n).all fun d => d < 2 || n % d != 0

/-- The bits of a root below the bit `bits`, added to what is found of it. -/
def rootFrom (k n : Nat) : (bits found : Nat) → Nat
  | 0, found => found
  | bits + 1, found =>
    rootFrom k n bits
      (if Nat.pow (found + Nat.pow 2 bits) k ≤ n then found + Nat.pow 2 bits else found)

/-- The whole part of the `k`-th root of a number, if it has at most that many bits. -/
def root (k n bits : Nat) : Nat := rootFrom k n bits 0

end SecureStream.Crypto.Modular
