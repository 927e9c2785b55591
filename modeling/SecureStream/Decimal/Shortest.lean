/-! # The shortest decimal that reads back

A binary floating point number is `m * 2 ^ q`. Among the decimals that round to it, `shortest`
takes one with the fewest digits, and of those the nearest. `Layout.write` sets digits and exponent
as text. -/

namespace SecureStream.Decimal

/-- A positive number together with the interval of reals that round to it, all over one
denominator. The ends belong to the interval if `closed`. -/
structure Interval where
  low : Nat
  value : Nat
  high : Nat
  denominator : Nat
  closed : Bool

/-- The interval of a finite positive double with these bits. -/
def Interval.ofBits (bits : Nat) : Interval :=
  let biased := bits / Nat.pow 2 52 % 2048
  let fraction := bits % Nat.pow 2 52
  let mantissa := if biased = 0 then fraction else Nat.pow 2 52 + fraction
  let q : Int := (if biased = 0 then -1074 else Int.ofNat biased - 1075) - 2
  let scale := Nat.pow 2 q.toNat
  let gapBelow := if fraction = 0 ∧ 1 < biased then 1 else 2
  ⟨(4 * mantissa - gapBelow) * scale, 4 * mantissa * scale, (4 * mantissa + 2) * scale,
    Nat.pow 2 (-q).toNat, mantissa % 2 == 0⟩

/-- Whether `n * 10 ^ s` lies in the interval. -/
def Interval.contains (i : Interval) (n : Nat) (s : Int) : Bool :=
  let x := n * Nat.pow 10 s.toNat * i.denominator
  let low := i.low * Nat.pow 10 (-s).toNat
  let high := i.high * Nat.pow 10 (-s).toNat
  if i.closed then low ≤ x && x ≤ high else low < x && x < high

/-- The exponent of the leading decimal digit. -/
def Interval.magnitude (i : Interval) : Int :=
  let whole := i.value / i.denominator
  if whole = 0 then
    let places := (List.range 400).find? fun j => i.denominator ≤ i.value * Nat.pow 10 (j + 1)
    Int.negSucc (places.getD 0)
  else Int.ofNat ((Nat.toDigits 10 whole).length - 1)

/-- The decimal with `count` digits in the interval that is nearest to the number, if there is
one, as a whole number and the exponent of its last digit. -/
def Interval.nearest? (i : Interval) (count : Nat) : Option (Nat × Int) :=
  let s := i.magnitude - (count : Int) + 1
  let value := i.value * Nat.pow 10 (-s).toNat
  let step := Nat.pow 10 s.toNat * i.denominator
  let below := value / step
  let belowFirst := 2 * (value - below * step) < step ∨
    (2 * (value - below * step) = step ∧ below % 2 = 0)
  let (first, second) := if belowFirst then (below, below + 1) else (below + 1, below)
  if i.contains first s then some (first, s)
  else if i.contains second s then some (second, s)
  else none

/-- **The shortest decimal that rounds to the number**: a whole number and the exponent of its last
digit. -/
def Interval.shortest (i : Interval) : Nat × Int :=
  ((List.range 17).findSome? fun n => i.nearest? (n + 1)).getD (0, 0)

/-- How digits and exponent are set: the exponents of the leading digit that are written without
an exponent, and the least number of digits of a written exponent. -/
structure Layout where
  firstPlain : Int
  lastPlain : Int
  exponentDigits : Nat

/-- Digits with `e` the exponent of the first. -/
def Layout.write (l : Layout) (digits : List Char) (e : Int) : String :=
  if l.firstPlain ≤ e ∧ e ≤ l.lastPlain then
    if e < 0 then
      String.ofList ('0' :: '.' :: (List.replicate (-e - 1).toNat '0' ++ digits))
    else
      let whole := (digits ++ List.replicate (e.toNat + 1 - digits.length) '0').take (e.toNat + 1)
      let fraction := digits.drop (e.toNat + 1)
      String.ofList (whole ++ '.' :: (if fraction.isEmpty then ['0'] else fraction))
  else
    let head := match digits with
      | d :: rest => if rest.isEmpty then [d] else d :: '.' :: rest
      | [] => []
    let power := List.leftpad l.exponentDigits '0' (toString e.natAbs).toList
    String.ofList (head ++ 'e' :: (if e < 0 then '-' else '+') :: power)

/-- **The text of a finite double**: the shortest decimal that reads back. -/
def Layout.render (l : Layout) (x : Float) : String :=
  let bits := x.toBits.toNat
  let sign := if Nat.pow 2 63 ≤ bits then "-" else ""
  if bits % Nat.pow 2 63 = 0 then sign ++ "0.0"
  else
    let (n, s) := (Interval.ofBits (bits % Nat.pow 2 63)).shortest
    let all := Nat.toDigits 10 n
    let digits := (all.reverse.dropWhile (· == '0')).reverse
    sign ++ l.write digits (s + (all.length - 1 : Nat))

end SecureStream.Decimal
