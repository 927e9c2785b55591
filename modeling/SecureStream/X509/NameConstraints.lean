import SecureStream.X509.DnsIdentifier
import SecureStream.X509.GeneralName
import SecureStream.X509.Certificate

/-! # Which names may stand below an authority

A constraint lists subtrees of names that are permitted and subtrees that are excluded. A name is
compared with the subtrees of its own kind: if there are permitted ones it has to fall under one of
them, and it may fall under no excluded one. Comparisons are counted against a limit. -/

namespace SecureStream.X509.NameConstraints

open Tls (CertificateError)

/-- The two lists of a constraint. -/
inductive Subtrees
  | permitted
  | excluded
deriving DecidableEq, Repr

/-! ### Addresses -/

/-- The ones at the front of an octet. -/
def leadingOnes (b : UInt8) : Nat :=
  ((List.range 8).takeWhile fun i => b.toNat.testBit (7 - i)).length

/-- Whether an octet is ones and then zeros. -/
def isMaskOctet (b : UInt8) : Bool := b.toNat == 256 - Nat.pow 2 (8 - leadingOnes b)

/-- Compares the octets of an address with those of a network under a mask, from the front. The
mask has to be ones and then zeros as far as the comparison goes. -/
def under : (ended : Bool) → (octets network mask : Bytes) → Except CertificateError Bool
  | ended, o :: octets, n :: network, m :: mask =>
    if !isMaskOctet m || (ended && m != 0) then .error (.rule .malformedIpAddress)
    else if o &&& m ≠ n &&& m then .ok false
    else under (ended || m != 0xff) octets network mask
  | _, _, _, _ => .ok true

/-- Whether an address lies in a network, given as an address and a mask. -/
def addressWithin (octets network : Bytes) : Except CertificateError Bool :=
  let size := octets.length
  if size ≠ 4 ∧ size ≠ 16 then defective .malformed
  else if network.length = 2 * size then
    under false octets (network.take size) (network.drop size)
  else if network.length = 8 ∨ network.length = 32 then .ok false
  else .error (.rule .malformedIpAddress)

/-! ### Names -/

/-- Whether a name falls under a subtree; `none` if they are of different kinds. -/
def matches? (subtrees : Subtrees) (name base : GeneralName) :
    Option (Except CertificateError Bool) :=
  match name, base with
  | .dns name, .dns base =>
    if !DnsIdentifier.isValid .presented name then some (.error (.rule .malformedDnsIdentifier))
    else if !DnsIdentifier.isValid .constraint base then
      some (.error (.rule .malformedNameConstraint))
    else some (.ok (DnsIdentifier.isWithin (subtrees == .excluded) name base))
  | .address octets, .address network => some (addressWithin octets network)
  | .directory, .directory | .uri _, .uri _ => some (.ok (subtrees == .excluded))
  | .unsupported a, .unsupported b =>
    if a = b then some (.error (.rule .nameConstraintViolation)) else none
  | _, _ => none

/-- What comparing a name with one list of subtrees has shown so far. -/
structure Findings where
  hit : Bool
  missed : Bool
deriving DecidableEq, Repr

/-- The name of a subtree, which is all that it may hold. -/
def nameOf (body : Bytes) : Except CertificateError GeneralName := do
  let (e, rest) ← present (Der.next? body)
  let name ← present (GeneralName.ofElement? e)
  exhausted rest
  return name

/-- What comparing a name with one subtree adds to what is known. -/
def compareOne (subtrees : Subtrees) (name : GeneralName) (found : Findings) (body : Bytes) :
    Except CertificateError Findings := do
  match matches? subtrees name (← nameOf body) with
  | none => return found
  | some r =>
    let hit ← r
    if hit ∧ subtrees = .excluded then .error (.rule .nameConstraintViolation)
    else return ⟨found.hit || hit, found.missed || !hit⟩

/-- Compares a name with the subtrees of a list, within a number of comparisons. The result tells
how many comparisons are left. -/
def compare (subtrees : Subtrees) (name : GeneralName) (found : Findings) (b : Bytes)
    (left : Nat) : Except CertificateError Findings × Nat :=
  if b.isEmpty then (.ok found, left)
  else match left with
    | 0 => (.error (.rule .maximumNameConstraintComparisonsExceeded), 0)
    | left + 1 =>
      match _h : Der.expect? Der.sequence b with
      | none => (defective .malformed, left)
      | some (body, rest) =>
        match compareOne subtrees name found body with
        | .error e => (.error e, left)
        | .ok found => compare subtrees name found rest left
termination_by b.length
decreasing_by exact Der.length_expect? (by assumption)

/-- Judges a name by one list of subtrees. -/
def judgeList (subtrees : Subtrees) (name : GeneralName) (list : Option Bytes) (left : Nat) :
    Except CertificateError Unit × Nat :=
  match list with
  | none => (.ok (), left)
  | some b =>
    let (r, left) := compare subtrees name ⟨false, false⟩ b left
    (r.bind fun found =>
      if subtrees = .permitted ∧ found.missed ∧ !found.hit then
        .error (.rule .nameConstraintViolation)
      else .ok (), left)

/-- A constraint: the contents of its two lists, where they are there, and what follows them, which
should be nothing. -/
structure Constraint where
  permitted : Option Bytes
  excluded : Option Bytes
  excess : Bytes
deriving DecidableEq, Repr

/-- Judges a name by a constraint. -/
def judge (c : Constraint) (name : GeneralName) (left : Nat) : Except CertificateError Unit × Nat :=
  match judgeList .permitted name c.permitted left with
  | (.ok (), left) => judgeList .excluded name c.excluded left
  | r => r

/-- Judges names one after another; what could not be read is an error. -/
def judgeAll (c : Constraint) : List (Option GeneralName) → Nat → Except CertificateError Unit × Nat
  | [], left => (.ok (), left)
  | none :: _, left => (defective .malformed, left)
  | some name :: rest, left =>
    match judge c name left with
    | (.ok (), left) => judgeAll c rest left
    | r => r

/-- The list of subtrees with a number, where it is at the front. -/
def list? (n : Nat) (b : Bytes) : Option (Option Bytes × Bytes) :=
  if b.head? = some (Der.context n) then
    (Der.expect? (Der.context n) b).map fun (content, rest) => (some content, rest)
  else some (none, b)

/-- Reads a constraint. -/
def read? (b : Bytes) : Option Constraint := do
  let (permitted, rest) ← list? 0 b
  let (excluded, rest) ← list? 1 rest
  return ⟨permitted, excluded, rest⟩

/-- The names that a certificate presents; its subject counts as one more. -/
def namesOf (c : Certificate) : List (Option GeneralName) :=
  GeneralName.readAll (c.extensions.subjectAltName.getD []) ++ [some .directory]

/-- **Judges the names of certificates by a constraint above them.** -/
def check (constraint : Option Bytes) (below : List Certificate) (left : Nat) :
    Except CertificateError Unit × Nat :=
  match constraint with
  | none => (.ok (), left)
  | some b =>
    match read? b with
    | none => (defective .malformed, left)
    | some c =>
      match judgeAll c (below.flatMap namesOf) left with
      | (.ok (), left) => (if c.excess.isEmpty then .ok () else defective .malformed, left)
      | r => r

end SecureStream.X509.NameConstraints
