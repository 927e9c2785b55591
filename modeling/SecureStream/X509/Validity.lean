import SecureStream.X509.Certificate

/-! # Periods of validity

A period is written as two moments, each as digits in a fixed order; a moment is held as seconds of
the epoch. -/

namespace SecureStream.X509.Validity

open Tls (CertificateError)

/-! ### Calendar -/

/-- Whether a year has a leap day. -/
def isLeap (year : Nat) : Bool := year % 4 == 0 && (year % 100 != 0 || year % 400 == 0)

/-- The days of a month. -/
def daysInMonth (year month : Nat) : Nat :=
  if month = 2 then (if isLeap year then 29 else 28)
  else if month ∈ [4, 6, 9, 11] then 30
  else 31

/-- The days before a year, counted from the year 0. -/
def daysBeforeYear (year : Nat) : Nat :=
  if year = 0 then 0
  else 365 * year + ((year - 1) / 4 - (year - 1) / 100 + (year - 1) / 400 + 1)

/-- The days before a month in its year. -/
def daysBeforeMonth (year month : Nat) : Nat :=
  (List.range (month - 1)).foldl (fun n m => n + daysInMonth year (m + 1)) 0

/-- The first year of the epoch. -/
def epochYear : Nat := 1970

/-- The seconds of the epoch at a moment. -/
def seconds (year month day hour minute second : Nat) : Nat :=
  let years := daysBeforeYear year - daysBeforeYear epochYear
  let days := years + daysBeforeMonth year month + (day - 1)
  ((days * 24 + hour) * 60 + minute) * 60 + second

/-! ### Reading -/

/-- The value of a decimal digit. -/
def digit? (b : UInt8) : Option Nat :=
  if 48 ≤ b.toNat ∧ b.toNat ≤ 57 then some (b.toNat - 48) else none

/-- Reads pairs of digits. -/
def pairs? : Bytes → Option (List Nat)
  | [] => some []
  | [_] => none
  | h :: l :: rest => do
    let h ← digit? h
    let l ← digit? l
    let tail ← pairs? rest
    return (10 * h + l) :: tail

/-- The moment of a year and the pairs that follow it. -/
def momentOf? (year : Nat) : List Nat → Option Nat
  | [month, day, hour, minute, second] =>
    if epochYear ≤ year ∧ 1 ≤ month ∧ month ≤ 12 ∧ 1 ≤ day ∧ day ≤ daysInMonth year month ∧
        hour < 24 ∧ minute < 60 ∧ second < 60 then
      some (seconds year month day hour minute second)
    else none
  | _ => none

/-- The moment of digits, with a year of two of them or of four. -/
def digits? (fullYear : Bool) (b : Bytes) : Option Nat := do
  match fullYear, ← pairs? b with
  | false, y :: rest => momentOf? (if 50 ≤ y then 1900 + y else 2000 + y) rest
  | true, c :: y :: rest => momentOf? (100 * c + y) rest
  | _, _ => none

/-- The number of digits of a moment. -/
def digitCount (fullYear : Bool) : Nat := if fullYear then 14 else 12

/-- Reads the moment at the front: digits and the letter of the zone. -/
def moment (b : Bytes) : Except CertificateError (Nat × Bytes) := do
  let fullYear := b.head? != some Der.utcTime
  let (content, rest) ←
    framed (Der.expect? (if fullYear then Der.generalizedTime else Der.utcTime) b)
  let n := digitCount fullYear
  match digits? fullYear (content.take n), content.drop n with
  | some t, 0x5a :: after => (exhausted after).map fun _ => (t, rest)
  | _, _ => defective .time

/-- **Whether a moment lies in a period.** Both ends belong to it. -/
def check (b : Bytes) (now : Nat) : Except CertificateError Unit := do
  let (first, rest) ← moment b
  let (last, rest) ← moment rest
  if last < first then .error (.named "Expired")
  else if now < first then .error (.notValidYet now first)
  else if last < now then .error (.expired now last)
  else exhausted rest

end SecureStream.X509.Validity
