import SecureStream.Provider
import SecureStream.Tls.Record

/-! # Marked records

The loopback protocol keeps the form and the size of protected records but hides nothing: what a
record carries is followed by a mark, a number that depends on the key, on how many records went
before, and on the contents. A record that was not made with the same key at the same place is
recognised by its mark. What one side writes the other reads (`Direction.read?_write`). In the same
way a mark by the public key stands for a signature. -/

namespace SecureStream.Loopback

open Tls (Record RecordType Version)

/-- The two sides of a connection. -/
inductive Side
  | client
  | server
deriving DecidableEq, Repr

/-- Mixes octets into a number. -/
def mix (n : UInt64) (b : Bytes) : UInt64 :=
  b.foldl (fun h x => h * 1099511628211 + x.toUInt64 + 1) n

/-- A key of one side. Each change of keys starts the next epoch; the secret is what the two sides
have in common. -/
structure Key where
  side : Side
  epoch : Nat
  version : Version
  secret : UInt64
deriving DecidableEq, Repr

namespace Key

/-- The octets of a mark. -/
def markSize : Nat := 16

/-- The number that a mark starts from. -/
def seed (k : Key) (sequence : Nat) : Nat :=
  (match k.side with | .client => 3 | .server => 5) + 7 * k.epoch + Nat.pow 2 40 * (sequence + 1)

/-- **The mark of some contents.** -/
def mark (k : Key) (sequence : Nat) (b : Bytes) : Bytes :=
  let n := mix (k.secret + UInt64.ofNat (k.seed sequence)) b
  Bytes.ofNat 8 (k.seed sequence) ++ Bytes.ofNat 8 n.toNat

/-- The octets in front of the contents of a record of version 1.2. -/
def explicitSize : Nat := 8

/-- **A marked record.** Version 1.3 hides the type of the record in its contents. -/
def protect (k : Key) (sequence : Nat) (type : RecordType) (b : Bytes) : Record :=
  match k.version with
  | .v13 =>
    let inner := b ++ [UInt8.ofNat type.code]
    ⟨.applicationData, Record.version12, inner ++ k.mark sequence inner⟩
  | .v12 =>
    ⟨type, Record.version12,
      Bytes.ofNat explicitSize sequence ++ b ++ k.mark sequence (UInt8.ofNat type.code :: b)⟩

/-- The type and the contents of a marked record. -/
def open? (k : Key) (sequence : Nat) (r : Record) : Option (RecordType × Bytes) :=
  let size := r.payload.length - markSize
  let inner := r.payload.take size
  let mark := r.payload.drop size
  match k.version with
  | .v13 =>
    if r.type = .applicationData ∧ k.mark sequence inner = mark then
      inner.getLast?.map fun t => (⟨t.toNat⟩, inner.dropLast)
    else none
  | .v12 =>
    let b := inner.drop explicitSize
    if explicitSize ≤ inner.length ∧ k.mark sequence (UInt8.ofNat r.type.code :: b) = mark then
      some (r.type, b)
    else none

theorem length_mark (k : Key) (sequence : Nat) (b : Bytes) :
    (k.mark sequence b).length = markSize := by
  rw [mark, List.length_append, Bytes.length_ofNat, Bytes.length_ofNat, markSize]

/-- **A marked record is read back** with its own key at its own place. -/
theorem open?_protect (k : Key) (sequence : Nat) {type : RecordType} (h : type.code < 256)
    (b : Bytes) : k.open? sequence (k.protect sequence type b) = some (type, b) := by
  have cut (inner m : Bytes) (hm : m.length = markSize) :
      (inner ++ m).take ((inner ++ m).length - markSize) = inner ∧
        (inner ++ m).drop ((inner ++ m).length - markSize) = m := by
    rw [List.length_append, hm, Nat.add_sub_cancel]
    exact ⟨List.take_left, List.drop_left⟩
  unfold open? protect
  split
  · obtain ⟨hi, hm⟩ := cut (b ++ [UInt8.ofNat type.code]) _
      (k.length_mark sequence (b ++ [UInt8.ofNat type.code]))
    simp only [hi, hm, and_self, if_true, List.getLast?_concat, List.dropLast_concat,
      Option.map_some, UInt8.toNat_ofNat', Nat.mod_eq_of_lt h]
  · obtain ⟨hi, hm⟩ := cut (Bytes.ofNat explicitSize sequence ++ b) _
      (k.length_mark sequence (UInt8.ofNat type.code :: b))
    have hd : (Bytes.ofNat explicitSize sequence ++ b).drop explicitSize = b :=
      List.drop_left' (Bytes.length_ofNat _ _)
    simp only [hi, hm, hd, and_true]
    rw [if_pos (by rw [List.length_append, Bytes.length_ofNat]; exact Nat.le_add_right _ _)]

end Key

/-! ### Signatures -/

/-- The octets that stand for a signature of a message by the holder of a public key. -/
def standIn (publicKey message : Bytes) (size : Nat) : Bytes :=
  let n := mix (mix 11 publicKey) message
  (Bytes.ofNat 8 n.toNat ++ Bytes.ofNat 8 (mix n message).toNat ++ List.replicate size 0).take size

/-! ### The two directions -/

/-- One direction of a connection: its key once records are marked, and how many were. -/
structure Direction where
  key : Option Key
  sequence : Nat
deriving DecidableEq, Repr

namespace Direction

/-- A direction whose records are not marked yet. -/
def plain : Direction := ⟨none, 0⟩

/-- A direction that starts to use a key. -/
def keyed (k : Key) : Direction := ⟨some k, 0⟩

/-- The next record in a direction. -/
def write (d : Direction) (type : RecordType) (b : Bytes) : Record × Direction :=
  match d.key with
  | none => (⟨type, Record.version12, b⟩, d)
  | some k => (k.protect d.sequence type b, { d with sequence := d.sequence + 1 })

/-- What a record in a direction carries, `none` if its mark is wrong. -/
def read? (d : Direction) (r : Record) : Option ((RecordType × Bytes) × Direction) :=
  match d.key with
  | none => some ((r.type, r.payload), d)
  | some k => (k.open? d.sequence r).map fun x => (x, { d with sequence := d.sequence + 1 })

/-- **What one side writes the other reads**, and both go on alike. -/
theorem read?_write (d : Direction) {type : RecordType} (h : type.code < 256) (b : Bytes) :
    d.read? (d.write type b).1 = some ((type, b), (d.write type b).2) := by
  unfold write read?
  split
  · rfl
  · next k hk => simp only [k.open?_protect d.sequence h b, Option.map_some]

/-- The direction with the key of the next epoch. -/
def rekeyed (d : Direction) : Direction :=
  match d.key with
  | none => d
  | some k => keyed { k with epoch := k.epoch + 1 }

end Direction

end SecureStream.Loopback
