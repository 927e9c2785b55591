import SecureStream.Bytes

/-! # Host names in certificates

A name that a certificate presents is compared with the name that is looked for, or with a
constraint. Letters of either case are the same. A presented name may start with a star that stands
for one label; a name that is looked for may end with a point. -/

namespace SecureStream.X509.DnsIdentifier

/-- The part that a name plays in a comparison. -/
inductive Role
  /-- The name that is looked for. -/
  | reference
  | presented
  | constraint
deriving DecidableEq, Repr

/-- The point between labels. -/
def point : UInt8 := 0x2e

/-- The star. -/
def star : UInt8 := 0x2a

/-- The hyphen. -/
def hyphen : UInt8 := 0x2d

/-- A letter in lower case, any other octet as it is. -/
def lower (b : UInt8) : UInt8 := if 65 ≤ b.toNat ∧ b.toNat ≤ 90 then b + 32 else b

/-- A decimal digit. -/
def isDigit (b : UInt8) : Bool := 48 ≤ b.toNat && b.toNat ≤ 57

/-- A letter, a digit, a hyphen or an underscore. -/
def isLabelOctet (b : UInt8) : Bool :=
  isDigit b || (97 ≤ (lower b).toNat && (lower b).toNat ≤ 122) || b == hyphen || b == 0x5f

/-- Splits at every point. -/
def labels : Bytes → List Bytes
  | [] => [[]]
  | b :: rest =>
    match labels rest with
    | [] => [[b]]
    | l :: ls => if b = point then [] :: l :: ls else (b :: l) :: ls

/-- A label: one to sixty-three admissible octets, no hyphen at either end. -/
def isLabel (l : Bytes) : Bool :=
  !l.isEmpty && l.length ≤ 63 && l.all isLabelOctet && l.head? != some hyphen &&
    l.getLast? != some hyphen

/-- The labels, less the empty one before the first point of a constraint, and less the empty one
after the last point of a name that is looked for. -/
def innerLabels (role : Role) (ls : List Bytes) : List Bytes :=
  match role with
  | .presented => ls
  | .constraint =>
    match ls with
    | [] :: (l :: rest) => l :: rest
    | ls => ls
  | .reference => if 2 ≤ ls.length ∧ ls.getLast? = some [] then ls.dropLast else ls

/-- Whether the labels make a name; the last one is not a number. -/
def areLabels (ls : List Bytes) : Bool :=
  ls.all isLabel && !(ls.getLast?.any fun l => l.all isDigit)

/-- **Whether a name is well formed in its role.** An empty constraint is, and a star in a presented
name is followed by two labels at least. -/
def isValid (role : Role) (name : Bytes) : Bool :=
  if 253 < name.length then false
  else if role = .constraint ∧ name.isEmpty then true
  else match role, labels name with
    | .presented, [s] :: rest =>
      if s = star then 2 ≤ rest.length && areLabels rest else areLabels ([s] :: rest)
    | role, ls => areLabels (innerLabels role ls)

/-- Whether two names are the same up to case. -/
def same (a b : Bytes) : Bool := a.map lower == b.map lower

/-- The name without the point at its end. -/
def relative (name : Bytes) : Bytes :=
  if name.getLast? = some point then name.dropLast else name

/-- A presented name as a star or an exact name, against the same number of labels. -/
def covers (presented name : Bytes) : Bool :=
  match presented with
  | s :: rest =>
    if s = star then
      match name with
      | [] => false
      | _ :: tail => same rest (tail.dropWhile (· != point))
    else same presented name
  | [] => name.isEmpty

/-- **Whether a presented name is the one that is looked for**; `none` if either is malformed. -/
def isReference? (presented reference : Bytes) : Option Bool :=
  if isValid .presented presented ∧ isValid .reference reference then
    some (covers presented (relative reference))
  else none

/-- Whether a presented name falls under a constraint: the constraint is the name, or what follows
a point in it. A star reaches into a constraint only where `starReaches` says so. -/
def isWithin (starReaches : Bool) (presented constraint : Bytes) : Bool :=
  if constraint.length < presented.length then
    constraint.isEmpty ||
      (let tail := presented.drop (presented.length - constraint.length)
       let before := presented[presented.length - constraint.length - 1]?
       same tail constraint && (constraint.head? == some point || before == some point))
  else (starReaches || presented.head? != some star) && covers presented constraint

end SecureStream.X509.DnsIdentifier
