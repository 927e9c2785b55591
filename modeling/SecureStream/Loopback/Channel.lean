import SecureStream.Loopback.Protection
import SecureStream.Tls.Message

/-! # One side of a connection

What both sides of the loopback protocol have in common: the two directions, the records that are
written, and the way from a record to the messages in it.

* `emit`: writes contents, cut into records.
* `opened?`: what a record carries, if it was made with the right key.
* `collect`: the messages that contents complete.
* `agree`: makes a secret of all messages so far, from which the next keys follow. -/

namespace SecureStream.Loopback

open Tls (Record RecordType Version Alert Corruption HandshakeType)

/-- Octets whose values do not matter. -/
def filler (n : Nat) : Bytes := List.replicate n 0

/-- Octets that stand for random ones, by a number of their own. -/
def nonce (seed n : Nat) : Bytes := (List.range n).map fun i => UInt8.ofNat (seed + 167 * i)

/-- **One side of a connection.** -/
structure Channel where
  version : Option Version
  reading : Direction
  writing : Direction
  /-- Whether a marked record was read. -/
  hasOpened : Bool
  /-- What all messages so far come to. -/
  transcript : UInt64
  /-- What all messages came to when the two sides agreed on a secret. -/
  secret : UInt64
  /-- The octets of a message that is not complete. -/
  fragment : Bytes
  /-- Whether octets follow the message that is worked on. -/
  isFollowed : Bool
  /-- The contents of a record at most. -/
  fragmentSize : Nat
  /-- An answer to a change of keys, which goes with the next record. -/
  update : Option Bytes
  /-- Whether an alert was written that ends the connection. -/
  alertSent : Bool
  /-- The empty records in a row so far. -/
  emptyRecords : Nat
  /-- Records that were written and not handed on yet, oldest first. -/
  written : List Bytes

namespace Channel

/-- The contents of a record at most, where nothing else is agreed. -/
def defaultFragmentSize : Nat := 16384

/-- A side before the first record, with the largest record that it may write. -/
def fresh (maxRecord : Option Nat) : Channel where
  version := none
  reading := .plain
  writing := .plain
  hasOpened := false
  transcript := 0
  secret := 0
  fragment := []
  isFollowed := false
  fragmentSize := (maxRecord.map (· - Record.headerSize)).getD defaultFragmentSize
  update := none
  alertSent := false
  emptyRecords := 0
  written := []

/-! ### Writing -/

/-- Writes one record, after the answer to a change of keys if there is one. -/
def put (c : Channel) (r : Record) : Channel :=
  { c with written := c.written ++ c.update.toList ++ [r.encode], update := none }

/-- Writes contents as one record in the writing direction. -/
def emitOne (type : RecordType) (c : Channel) (b : Bytes) : Channel :=
  let (r, writing) := c.writing.write type b
  { c with writing }.put r

/-- **Writes contents**, cut into records. -/
def emit (type : RecordType) (b : Bytes) (c : Channel) : Channel :=
  (Record.fragments c.fragmentSize b).foldl (emitOne type) c

/-- Takes the octets of messages into account. -/
def note (b : Bytes) (c : Channel) : Channel := { c with transcript := mix c.transcript b }

/-- Writes messages of the handshake one behind another. -/
def emitMessages (l : List Tls.Message) (c : Channel) : Channel :=
  let b := l.flatMap Tls.Message.encode
  (c.note b).emit .handshake b

/-- The record that announces marked records. It is never marked itself. -/
def emitChange (c : Channel) : Channel := c.put ⟨.changeCipherSpec, Record.version12, [1]⟩

/-- Writes an alert that ends the connection. -/
def emitFatal (a : Alert) (c : Channel) : Channel :=
  { c.emit .alert [2, UInt8.ofNat a.code] with alertSent := true }

/-- Writes the close-notify, unless an alert has ended the connection. -/
def emitCloseNotify (c : Channel) : Channel :=
  if c.alertSent then c
  else { c.emit .alert [1, UInt8.ofNat Alert.closeNotify.code] with alertSent := true }

/-- Hands the records on. -/
def handOn (c : Channel) : List Bytes × Channel := (c.written, { c with written := [] })

/-! ### Keys -/

/-- Makes a secret of all messages so far. -/
def agree (c : Channel) : Channel := { c with secret := c.transcript }

/-- Uses the keys of an epoch to read. -/
def readWith (peer : Side) (version : Version) (epoch : Nat) (c : Channel) : Channel :=
  { c with reading := .keyed ⟨peer, epoch, version, c.secret⟩ }

/-- Uses the keys of an epoch to write. -/
def writeWith (own : Side) (version : Version) (epoch : Nat) (c : Channel) : Channel :=
  { c with writing := .keyed ⟨own, epoch, version, c.secret⟩ }

/-! ### Reading -/

/-- Whether a record may be taken as it is although records are marked. -/
def mayBePlain (c : Channel) (r : Record) : Bool :=
  c.fragment.isEmpty &&
    (r.type == .changeCipherSpec ||
      (r.type == .alert && c.version == some .v13 && !c.hasOpened && r.payload.length ≤ 2))

/-- The type and the contents of a record, `none` if its mark is wrong. -/
def opened? (c : Channel) (r : Record) : Option ((RecordType × Bytes) × Channel) :=
  if c.mayBePlain r then some ((r.type, r.payload), c)
  else (c.reading.read? r).map fun (x, reading) =>
    (x, { c with reading, hasOpened := c.hasOpened || c.reading.key.isSome })

/-- The empty records in a row that are accepted. -/
def maxEmptyRecords : Nat := 10

/-- Counts empty records in a row. -/
def countEmpty (b : Bytes) (c : Channel) : Option Channel :=
  if !b.isEmpty then some { c with emptyRecords := 0 }
  else if c.emptyRecords = maxEmptyRecords then none
  else some { c with emptyRecords := c.emptyRecords + 1 }

/-- Takes contents of the handshake: the messages that are complete now. -/
def collect (b : Bytes) (c : Channel) : List (HandshakeType × Bytes) × Channel :=
  let (l, fragment) := Tls.splitMessages (c.fragment ++ b)
  (l, { c with fragment })

/-- Turns to a message; what is not complete or comes behind it follows it. -/
def turnTo (type : HandshakeType) (b : Bytes) (rest : List (HandshakeType × Bytes)) (c : Channel) :
    Channel :=
  { c.note (Tls.messageOctets type b) with isFollowed := !rest.isEmpty || !c.fragment.isEmpty }

/-- Whether a message ends where the keys may change. -/
def isAligned (c : Channel) : Bool := c.fragment.isEmpty && !c.isFollowed

/-- The longest message. -/
def maxMessage : Nat := 65535

/-- Whether the message that is not complete would be too long. -/
def isOversized (c : Channel) : Bool :=
  match c.fragment with
  | _ :: x :: y :: z :: _ => maxMessage < 65536 * x.toNat + 256 * y.toNat + z.toNat
  | _ => false

end Channel

end SecureStream.Loopback
