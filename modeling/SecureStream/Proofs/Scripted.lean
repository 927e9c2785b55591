import SecureStream.Transport.Exchange
import Mathlib.Data.Stream.Init

/-! # Sockets that answer from a script

A world that is fixed in advance: what each send takes and what each receive brings stands in two
endless scripts, and the octets that were taken are on the wire (`Script`). Every connect goes
through. `plain` is a protocol that protects nothing, `bareRoot` are credentials to connect with;
with them whole runs can be evaluated. -/

namespace SecureStream

/-- **What is left of the two scripts, and what was taken.** -/
structure Script where
  /-- How many octets the next sends take at most, or how they fail. -/
  sends : Stream' (Except IoError ℕ)
  /-- What the next receives bring, or how they fail. -/
  recvs : Stream' (Except IoError Bytes)
  wire : Bytes

namespace Script

/-- A send takes octets from the front. -/
def send (b : Bytes) (w : Script) : Except IoError ℕ × Script :=
  match w.sends.head with
  | .error x => (.error x, { w with sends := w.sends.tail })
  | .ok n =>
    (.ok (b.take n).length, { w with sends := w.sends.tail, wire := w.wire ++ b.take n })

/-- The script after a receive: what the receiver had no room for comes next. -/
def afterRecv (limit : ℕ) (b : Bytes) (rest : Stream' (Except IoError Bytes)) :
    Stream' (Except IoError Bytes) :=
  if b.drop limit = [] then rest else .cons (.ok (b.drop limit)) rest

/-- A receive brings octets up to a limit. -/
def recv (limit : ℕ) (w : Script) : Except IoError Bytes × Script :=
  match w.recvs.head with
  | .error x => (.error x, { w with recvs := w.recvs.tail })
  | .ok b => (.ok (b.take limit), { w with recvs := afterRecv limit b w.recvs.tail })

/-- **Sockets over a script.** There is one, and all but sending and receiving goes well. -/
def sockets : Sockets Script Unit where
  socket _ _ _ w := (.ok (), w)
  setOption _ _ w := (.ok (), w)
  connect _ _ _ w := (.ok (), w)
  send _ b w := w.send b
  recv _ limit w := w.recv limit
  close _ w := w

/-- A transport over a script, with a clock that stands still. -/
def backing {σ : Type} (p : Protocol σ) : Backing Script σ Unit :=
  ⟨sockets, p, ⟨fun w => (0, w), fun _ w => w⟩⟩

/-- A script with a runtime and nothing in the journal. -/
def inEnv (w : Script) : Env Script :=
  ⟨w, ⟨some ⟨1, .standard .lasting, Nat.one_pos⟩⟩, .empty⟩

end Script

/-- **A protocol that protects nothing.** What was fed waits to be worked on, and is plaintext
then. -/
def Protocol.plain : Protocol Bytes where
  start _ source := (.ok ([], []), source)
  isHandshaking _ := false
  room c := (some 4096, c)
  feed c b := c ++ b
  process c := ⟨[], [], c, false, none⟩
  write c _ b := ⟨c, b.length, if b = [] then [] else [b]⟩
  closeNotify c := (c, [])
  agreement _ := ⟨none, none, none, none⟩

/-- Credentials with the least root: a certificate of version 1 whose parts are empty. -/
def Credentials.bareRoot : Credentials :=
  { Credentials.empty with
    rootCa := some [0x30, 0x14, 0x30, 0x0d, 0x02, 0x01, 0x01, 0x30, 0x00, 0x30, 0x00, 0x30, 0x00,
      0x30, 0x00, 0x30, 0x00, 0x30, 0x00, 0x03, 0x01, 0x00] }

end SecureStream
