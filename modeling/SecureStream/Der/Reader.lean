import SecureStream.Bytes

/-! # Reading DER

An element is a tag, a length in its shortest form, and that many octets.

* `next?`: the first element and what follows; the rest is shorter (`length_next?`).
* `expectLong?`: the first element where lengths are not limited as in certificates.
* `isSequence`: one outer SEQUENCE and nothing after it, with a length of any form up to four
  octets. -/

namespace SecureStream.Der

/-! ### Tags -/

def boolean : UInt8 := 0x01
def integer : UInt8 := 0x02
def bitString : UInt8 := 0x03
def octetString : UInt8 := 0x04
def objectIdentifier : UInt8 := 0x06
def utcTime : UInt8 := 0x17
def generalizedTime : UInt8 := 0x18
def sequence : UInt8 := 0x30

/-- The tag of a constructed element that a context numbers. -/
def context (n : Nat) : UInt8 := UInt8.ofNat (0xA0 + n)

/-- The tag of a primitive element that a context numbers. -/
def contextPrimitive (n : Nat) : UInt8 := UInt8.ofNat (0x80 + n)

/-! ### Elements -/

/-- The contents of a part of a certificate have to be shorter than this. -/
def lengthLimit : Nat := 65535

/-- The length of contents takes four octets at most. -/
def longLimit : Nat := 4294967296

/-- A length in its shortest form, and what follows it. -/
def length? : Bytes → Option (Nat × Bytes)
  | [] => none
  | n :: rest =>
    if n.toNat < 128 then some (n.toNat, rest)
    else if n = 0x81 then
      match rest with
      | a :: rest => if 128 ≤ a.toNat then some (a.toNat, rest) else none
      | _ => none
    else if n = 0x82 then
      match rest with
      | a :: b :: rest =>
        let m := 256 * a.toNat + b.toNat
        if 256 ≤ m then some (m, rest) else none
      | _ => none
    else if n = 0x83 then
      match rest with
      | a :: b :: c :: rest =>
        let m := 65536 * a.toNat + 256 * b.toNat + c.toNat
        if 65536 ≤ m then some (m, rest) else none
      | _ => none
    else if n = 0x84 then
      match rest with
      | a :: b :: c :: d :: rest =>
        let m := 16777216 * a.toNat + 65536 * b.toNat + 256 * c.toNat + d.toNat
        if 16777216 ≤ m then some (m, rest) else none
      | _ => none
    else none

/-- An element: its tag and its contents. -/
structure Element where
  tag : UInt8
  content : Bytes
deriving DecidableEq, Repr

/-- **The first element and what follows it**, with contents shorter than a limit. -/
def element? (limit : Nat) : Bytes → Option (Element × Bytes)
  | [] => none
  | tag :: rest =>
    if tag.toNat % 32 = 31 then none
    else match length? rest with
      | none => none
      | some (n, body) =>
        if n < limit ∧ n ≤ body.length then some (⟨tag, body.take n⟩, body.drop n) else none

/-- The first element of a part of a certificate, and what follows it. -/
def next? (b : Bytes) : Option (Element × Bytes) := element? lengthLimit b

theorem length_length? {b rest : Bytes} {n : Nat} (h : length? b = some (n, rest)) :
    rest.length < b.length := by
  unfold length? at h
  repeat' split at h
  all_goals simp_all
  all_goals omega

/-- **What follows an element is shorter.** -/
theorem length_next? {b rest : Bytes} {e : Element} (h : next? b = some (e, rest)) :
    rest.length < b.length := by
  unfold next? element? at h
  repeat' split at h
  all_goals simp_all
  next hl _ =>
    have := length_length? hl
    obtain ⟨-, rfl⟩ := h
    simp only [List.length_drop]
    omega

/-- The contents of the first element, which has to have this tag, and what follows it. -/
def expect? (tag : UInt8) (b : Bytes) : Option (Bytes × Bytes) :=
  match next? b with
  | some (e, rest) => if e.tag = tag then some (e.content, rest) else none
  | none => none

theorem length_expect? {tag : UInt8} {b content rest : Bytes}
    (h : expect? tag b = some (content, rest)) : rest.length < b.length := by
  unfold expect? at h
  split at h
  next e r hn =>
    split at h
    · simp only [Option.some.injEq, Prod.mk.injEq] at h
      obtain ⟨-, rfl⟩ := h
      exact length_next? hn
    · simp at h
  · simp at h

/-- The contents of the only element. -/
def only? (tag : UInt8) (b : Bytes) : Option Bytes :=
  match expect? tag b with
  | some (content, []) => some content
  | _ => none

/-- The contents of the first element of any length, which has to have this tag, and what follows
it. -/
def expectLong? (tag : UInt8) (b : Bytes) : Option (Bytes × Bytes) :=
  match element? longLimit b with
  | some (e, rest) => if e.tag = tag then some (e.content, rest) else none
  | none => none

/-- The contents of the only element, of any length. -/
def onlyLong? (tag : UInt8) (b : Bytes) : Option Bytes :=
  match expectLong? tag b with
  | some (content, []) => some content
  | _ => none

/-- The optional element with a tag at the front, of any length. -/
def optionalLong? (tag : UInt8) (b : Bytes) : Option (Option Bytes × Bytes) :=
  if b.head? = some tag then (expectLong? tag b).map fun (content, rest) => (some content, rest)
  else some (none, b)

/-- The elements one after another, up to the end. -/
def elements? (b : Bytes) : Option (List Element) :=
  if b.isEmpty then some []
  else match _h : next? b with
    | none => none
    | some (e, rest) => (elements? rest).map (e :: ·)
termination_by b.length
decreasing_by exact length_next? (by assumption)

/-! ### Values -/

/-- The magnitude of a whole number that is not negative, without a leading zero octet. -/
def natural? (content : Bytes) : Option Bytes :=
  match content with
  | [] => none
  | [b] => if b.toNat < 128 then some [b] else none
  | b :: c :: rest =>
    if b = 0 then (if 128 ≤ c.toNat then some (c :: rest) else none)
    else if b.toNat < 128 then some (b :: c :: rest) else none

/-- The octets of a string of whole octets. -/
def wholeBits? : Bytes → Option Bytes
  | 0 :: rest => some rest
  | _ => none

/-! ### The framing of a single value -/

/-- **One outer SEQUENCE whose declared length is exactly the rest.** The length may have a longer
form than it needs. -/
def isSequence : Bytes → Bool
  | tag :: len :: rest =>
    if tag ≠ sequence then false
    else if len.toNat < 128 then rest.length == len.toNat
    else if 0x81 ≤ len.toNat ∧ len.toNat ≤ 0x84 then
      let n := len.toNat - 128
      n ≤ rest.length && rest.length - n == Bytes.toNat (rest.take n)
    else false
  | _ => false

end SecureStream.Der
