import SecureStream.Bytes
import SecureStream.Tls.Error

/-! # Records

A record has a header of five octets: its type, a version and the length of what it carries.

* `encode`, `next`: the octets of a record, and the record at the front of some octets.
* `fragments`: cuts what is to be carried into pieces of a size (`flatten_fragments`). -/

namespace SecureStream.Tls

/-- **A record.** -/
structure Record where
  type : RecordType
  version : Nat
  payload : Bytes
deriving DecidableEq, Repr

namespace Record

/-- The octets of a header. -/
def headerSize : Nat := 5

/-- The version in the header of records, except for the first. -/
def version12 : Nat := 0x0303

/-- A payload has to be shorter than this. -/
def payloadLimit : Nat := 18432

/-- The octets of a record. -/
def encode (r : Record) : Bytes :=
  UInt8.ofNat r.type.code ::
    (Bytes.ofNat 2 r.version ++ Bytes.ofNat 2 r.payload.length ++ r.payload)

/-- What stands at the front of some octets. -/
inductive Front
  /-- The octets end before the record does. -/
  | incomplete
  | broken (defect : Corruption)
  | record (r : Record) (rest : Bytes)

/-- Whether a version may stand in a header. -/
def isKnownVersion (v : Nat) : Bool :=
  v / 256 == 0x03 || v ∈ [0x0200, 0xfeff, 0xfefd, 0xfefc]

/-- What a header says. -/
structure Header where
  type : RecordType
  version : Nat
  length : Nat
deriving DecidableEq, Repr

/-- Judges the length in a header. -/
def judgeLength (h : Header) : Except Corruption Header :=
  if h.length = 0 ∧ h.type ≠ .applicationData then .error .invalidEmptyPayload
  else if payloadLimit ≤ h.length then .error .messageTooLarge
  else .ok h

/-- The header at the front, `none` while it is not complete. Each part of it is judged as soon as
it is there. -/
def header? : Bytes → Option (Except Corruption Header)
  | [] => none
  | t :: rest =>
    if (RecordType.nameOf? t.toNat).isNone then some (.error .invalidContentType)
    else match rest with
      | v :: w :: rest =>
        if !isKnownVersion (256 * v.toNat + w.toNat) then some (.error .unknownProtocolVersion)
        else match rest with
          | a :: b :: _ =>
            some (judgeLength ⟨⟨t.toNat⟩, 256 * v.toNat + w.toNat, 256 * a.toNat + b.toNat⟩)
          | _ => none
      | _ => none

/-- **The record at the front.** -/
def next (b : Bytes) : Front :=
  match header? b with
  | none => .incomplete
  | some (.error defect) => .broken defect
  | some (.ok h) =>
    let rest := b.drop headerSize
    if rest.length < h.length then .incomplete
    else .record ⟨h.type, h.version, rest.take h.length⟩ (rest.drop h.length)

/-- **What follows a record is shorter.** -/
theorem length_next {b rest : Bytes} {r : Record} (h : next b = .record r rest) :
    rest.length < b.length := by
  have hb : 0 < b.length := by
    cases b with
    | nil => simp [next, header?] at h
    | cons _ _ => simp
  unfold next at h
  split at h
  · simp at h
  · simp at h
  · dsimp only at h
    split at h
    · simp at h
    · simp only [Front.record.injEq] at h
      rw [← h.2]
      simp only [List.length_drop, headerSize]
      omega

/-- Cuts into pieces of a size, the last perhaps smaller; nothing is one empty piece. -/
def fragments (size : Nat) (b : Bytes) : List Bytes :=
  if _h : b.length ≤ size ∨ size = 0 then [b]
  else b.take size :: fragments size (b.drop size)
termination_by b.length
decreasing_by
  rw [not_or] at _h
  simp only [List.length_drop]
  omega

/-- **Nothing is lost between the pieces.** -/
theorem flatten_fragments (size : Nat) (b : Bytes) : (fragments size b).flatten = b := by
  fun_induction fragments size b with
  | case1 b h => exact List.append_nil b
  | case2 b h ih => rw [List.flatten_cons, ih, List.take_append_drop]

end Record

end SecureStream.Tls
