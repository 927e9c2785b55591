/-! # Internet addresses as text

* `readV4`, `readV6`: the textual forms; an octet has at most three digits and no leading zero, a
  group at most four, one `::` stands for one or more zero groups, and the last two groups may be
  written as an IPv4 address.
* `readParts`: the older form of an IPv4 address, in one to four parts of any base.
* `Address.render`: the canonical form, with the first of the longest runs of two or more zero
  groups written `::`. -/

namespace SecureStream.Name

/-- An internet address: four octets or eight groups of sixteen bits. -/
inductive Address
  | v4 (a b c d : Nat)
  | v6 (groups : List Nat)
deriving DecidableEq, Repr

namespace Address

/-! ### Reading -/

/-- The value of a digit in the given base. -/
def digit? (base : Nat) (c : Char) : Option Nat :=
  let value? : Option Nat :=
    if '0' ≤ c ∧ c ≤ '9' then some (c.toNat - 48)
    else if 'a' ≤ c ∧ c ≤ 'f' then some (c.toNat - 87)
    else if 'A' ≤ c ∧ c ≤ 'F' then some (c.toNat - 55)
    else none
  value?.filter (· < base)

/-- The digits at the front and what follows them. -/
def digits (base : Nat) : List Char → List Nat × List Char
  | [] => ([], [])
  | c :: rest =>
    match digit? base c with
    | some d => let (ds, after) := digits base rest; (d :: ds, after)
    | none => ([], c :: rest)

/-- The number that digits spell. -/
def ofDigits (base : Nat) (ds : List Nat) : Nat := ds.foldl (fun n d => base * n + d) 0

/-- An octet in decimal. -/
def octet? (s : List Char) : Option (Nat × List Char) :=
  match digits 10 s with
  | ([], _) => none
  | (0 :: _ :: _, _) => none
  | (ds, after) =>
    if ds.length ≤ 3 ∧ ofDigits 10 ds < 256 then some (ofDigits 10 ds, after) else none

/-- A group in hexadecimal. -/
def group? (s : List Char) : Option (Nat × List Char) :=
  match digits 16 s with
  | ([], _) => none
  | (ds, after) => if ds.length ≤ 4 then some (ofDigits 16 ds, after) else none

/-- Drops a given character. -/
def skip? (c : Char) : List Char → Option (List Char)
  | d :: rest => if d = c then some rest else none
  | [] => none

/-- Four octets separated by points. -/
def octets? (s : List Char) : Option ((Nat × Nat × Nat × Nat) × List Char) := do
  let (a, s) ← octet? s
  let s ← skip? '.' s
  let (b, s) ← octet? s
  let s ← skip? '.' s
  let (c, s) ← octet? s
  let s ← skip? '.' s
  let (d, s) ← octet? s
  return ((a, b, c, d), s)

/-- At most `limit` groups separated by colons, `started` telling that one came before. The result
tells the groups, whether they end with an IPv4 address, and what follows. -/
def groups : (limit : Nat) → (started : Bool) → List Char → List Nat × Bool × List Char
  | 0, _, s => ([], false, s)
  | limit + 1, started, s =>
    match (if started then skip? ':' s else some s) with
    | none => ([], false, s)
    | some body =>
      match (if 1 ≤ limit then octets? body else none) with
      | some ((a, b, c, d), after) => ([256 * a + b, 256 * c + d], true, after)
      | none =>
        match group? body with
        | none => ([], false, s)
        | some (g, after) =>
          let (gs, four, rest) := groups limit true after
          (g :: gs, four, rest)

/-- Reads an IPv4 address. -/
def readV4 (s : List Char) : Option Address :=
  match octets? s with
  | some ((a, b, c, d), []) => some (v4 a b c d)
  | _ => none

/-- A number in decimal, in hexadecimal after `0x`, or in octal after `0`. -/
def anyBase? (s : List Char) : Option (Nat × List Char) :=
  let number (base : Nat) (s : List Char) : Option (Nat × List Char) :=
    match digits base s with
    | ([], _) => none
    | (ds, after) => some (ofDigits base ds, after)
  match s with
  | '0' :: x :: rest =>
    let octal := number 8 s
    if x = 'x' ∨ x = 'X' then (number 16 rest).or octal else octal
  | _ => number 10 s

/-- Numbers in any base with points between them, up to the end. -/
def parts? : (limit : Nat) → List Char → Option (List Nat)
  | 0, _ => none
  | limit + 1, s =>
    match anyBase? s with
    | none => none
    | some (n, []) => some [n]
    | some (n, c :: rest) => if c = '.' then (parts? limit rest).map (n :: ·) else none

/-- **Reads an IPv4 address in one to four parts.** All but the last are octets; the last takes up
the octets that are left. -/
def readParts (s : List Char) : Option Address :=
  match parts? 4 s with
  | none => none
  | some ns =>
    let front := ns.dropLast
    let last := ns.getLastD 0
    if front.all (· < 256) ∧ last < Nat.pow 256 (4 - front.length) then
      let n := ofDigits 256 front * Nat.pow 256 (4 - front.length) + last
      some (v4 (n / 16777216) (n / 65536 % 256) (n / 256 % 256) (n % 256))
    else none

/-- Reads an IPv6 address. -/
def readV6 (s : List Char) : Option Address :=
  match groups 8 false s with
  | (front, four, rest) =>
    if front.length = 8 then (if rest.isEmpty then some (v6 front) else none)
    else if four then none
    else match rest with
      | ':' :: ':' :: rest =>
        match groups (7 - front.length) false rest with
        | (back, _, []) =>
          some (v6 (front ++ List.replicate (8 - front.length - back.length) 0 ++ back))
        | _ => none
      | _ => none

/-- **Reads an address of either family.** -/
def ofText? (s : String) : Option Address := (readV4 s.toList).or (readV6 s.toList)

/-! ### Writing -/

/-- The digits of a number in base sixteen. -/
def hex (n : Nat) : String := String.ofList (Nat.toDigits 16 n)

/-- Decimal octets with points between them. -/
def renderOctets (a b c d : Nat) : String :=
  ".".intercalate ([a, b, c, d].map toString)

/-- Hexadecimal groups with colons between them. -/
def renderGroups (gs : List Nat) : String := ":".intercalate (gs.map hex)

/-- The length of the run of zeros at the front. -/
def zeroRun (gs : List Nat) : Nat := (gs.takeWhile (· == 0)).length

/-- Position and length of the first of the longest runs of zeros. -/
def longestRun : (at_ : Nat) → (best : Nat × Nat) → List Nat → Nat × Nat
  | _, best, [] => best
  | i, best, g :: rest =>
    let run := zeroRun (g :: rest)
    longestRun (i + 1) (if best.2 < run then (i, run) else best) rest

/-- **The canonical text of an address.** -/
def render : Address → String
  | v4 a b c d => renderOctets a b c d
  | v6 gs =>
    match gs with
    | [0, 0, 0, 0, 0, 0xffff, hi, lo] =>
      "::ffff:" ++ renderOctets (hi / 256) (hi % 256) (lo / 256) (lo % 256)
    | _ =>
      let (i, run) := longestRun 0 (0, 0) gs
      if 2 ≤ run then renderGroups (gs.take i) ++ "::" ++ renderGroups (gs.drop (i + run))
      else renderGroups gs

/-- The octets of an address, most significant first. -/
def octets : Address → List UInt8
  | v4 a b c d => [a, b, c, d].map UInt8.ofNat
  | v6 gs => gs.flatMap fun g => [UInt8.ofNat (g / 256), UInt8.ofNat (g % 256)]

/-- The octets of an address in a listing of its parts. -/
def inspect : Address → String
  | v4 a b c d => "V4(Ipv4Addr([" ++ ", ".intercalate ([a, b, c, d].map toString) ++ "]))"
  | v6 gs =>
    let bs := gs.flatMap fun g => [g / 256, g % 256]
    "V6(Ipv6Addr([" ++ ", ".intercalate (bs.map toString) ++ "]))"

end Address

end SecureStream.Name
