import SecureStream.Session.ByteStream
import SecureStream.Session.Protocol

/-! # Sessions

A session is a protocol state with the queues around it: records that wait for the stream, and
plaintext that waits for the reader.

* `writeTls`, `flush`: records go to the stream, in order; `pending` counts the octets that wait.
* `readTls`, `process`: octets come from the stream and are worked on.
* `read`, `write`: plaintext. -/

namespace SecureStream

/-- **A session.** -/
structure Session (σ : Type) where
  core : σ
  /-- Records that wait for the stream, oldest first; the oldest may have been taken in part. -/
  outbox : List Bytes
  /-- Plaintext that waits for the reader. -/
  inbox : Bytes
  /-- Whether the peer's close-notify came. -/
  closed : Bool
  /-- Whether the stream has ended. -/
  ended : Bool
  /-- What went wrong; it does not go away. -/
  failure : Option TlsError

namespace Session

variable {σ ε : Type}

/-- A session with its first records. -/
def fresh (core : σ) (records : List Bytes) : Session σ := ⟨core, records, [], false, false, none⟩

/-! ### Records -/

/-- The octets that wait for the stream. -/
def pending (s : Session σ) : Nat := s.outbox.flatten.length

/-- Whether records wait for the stream. -/
def wantsWrite (s : Session σ) : Bool := !s.outbox.isEmpty

/-- The queue without its first `n` octets. -/
def consume : Nat → List Bytes → List Bytes
  | _, [] => []
  | n, b :: rest => if n < b.length then b.drop n :: rest else consume (n - b.length) rest

/-- Taking octets away takes them from the front. -/
theorem flatten_consume (n : Nat) (q : List Bytes) : (consume n q).flatten = q.flatten.drop n := by
  induction q generalizing n with
  | nil => simp [consume]
  | cons b rest ih =>
    rw [consume, List.flatten_cons, List.drop_append]
    split
    · next h => rw [List.flatten_cons, Nat.sub_eq_zero_of_le (Nat.le_of_lt h), List.drop_zero]
    · next h => rw [ih, List.drop_eq_nil_of_le (Nat.le_of_not_lt h), List.nil_append]

/-- The session after the stream took `n` octets. -/
def sent (s : Session σ) (n : Nat) : Session σ := { s with outbox := consume n s.outbox }

theorem pending_sent {s : Session σ} {n : Nat} (h : n ≤ s.pending) :
    (s.sent n).pending + n = s.pending := by
  unfold pending at h
  rw [pending, sent, flatten_consume, List.length_drop, pending, Nat.sub_add_cancel h]

/-- A stream that claims to have taken more octets than waited. -/
def overcount (taken waiting : Nat) : IoError :=
  .described .other
    ("illegal write_vectored return value (" ++ toString taken ++ " > " ++ toString waiting ++ ")")

/-- **Offers the oldest record to the stream.** -/
def writeTls (io : ByteStream ε) (s : Session σ) (e : ε) : Except IoError Nat × Session σ × ε :=
  match s.outbox with
  | [] => (.ok 0, s, e)
  | record :: _ =>
    match io.write record e with
    | (.error x, e) => (.error x, s, e)
    | (.ok n, e) =>
      if n ≤ s.pending then (.ok n, s.sent n, e) else (.error (overcount n s.pending), s, e)

theorem pending_writeTls {io : ByteStream ε} {s t : Session σ} {e e' : ε} {n : Nat}
    (h : s.writeTls io e = (.ok n, t, e')) : t.pending + n = s.pending := by
  unfold writeTls at h
  split at h
  · simp only [Prod.mk.injEq, Except.ok.injEq] at h
    obtain ⟨rfl, rfl, -⟩ := h
    rfl
  · split at h
    · simp at h
    · split at h
      · next hn =>
        simp only [Prod.mk.injEq, Except.ok.injEq] at h
        obtain ⟨rfl, rfl, -⟩ := h
        exact pending_sent hn
      · simp at h

/-- **Writes records until none is left** or the stream takes no more. -/
def flush (io : ByteStream ε) (s : Session σ) (e : ε) : Except StreamFault Unit × Session σ × ε :=
  if s.wantsWrite then
    match _h : s.writeTls io e with
    | (.error x, s, e) => (.error (.ofIoError x .send), s, e)
    | (.ok 0, s, e) => (.error .wantWrite, s, e)
    | (.ok (_ + 1), s, e) => flush io s e
  else (.ok (), s, e)
termination_by s.pending
decreasing_by
  have := pending_writeTls _h
  omega

/-- **Reads octets from the stream**; after a close-notify the stream is not asked any more. -/
def readTls (p : Protocol σ) (io : ByteStream ε) (s : Session σ) (e : ε) :
    Except IoError Nat × Session σ × ε :=
  if s.closed then (.ok 0, s, e)
  else
    match p.room s.core with
    | (none, core) => (.error (.described .invalidData "message buffer full"), { s with core }, e)
    | (some limit, core) =>
      match io.read limit e with
      | (.error x, e) => (.error x, { s with core }, e)
      | (.ok b, e) =>
        (.ok b.length, { s with core := p.feed core b, ended := s.ended || b.isEmpty }, e)

/-- **Works on the octets that were read.** After a failure this fails again. -/
def process (p : Protocol σ) (s : Session σ) : Except TlsError Unit × Session σ :=
  match s.failure with
  | some x => (.error x, s)
  | none =>
    let r := p.process s.core
    let s := { s with
      core := r.core
      outbox := s.outbox ++ r.records
      inbox := s.inbox ++ r.plaintext
      closed := s.closed || r.closed
      failure := r.failure }
    match r.failure with
    | some x => (.error x, s)
    | none => (.ok (), s)

/-! ### Plaintext -/

/-- **Takes plaintext.** Without any, the result tells whether more may come: a close-notify ends
the plaintext, the end of the stream alone is an error. -/
def read (s : Session σ) (limit : Nat) : Except IoError Bytes × Session σ :=
  match s.inbox with
  | b :: rest => (.ok ((b :: rest).take limit), { s with inbox := (b :: rest).drop limit })
  | [] =>
    if s.closed then (.ok [], s)
    else if s.ended then (.error (.plain .unexpectedEof), s)
    else (.error (.plain .wouldBlock), s)

/-- **Hands plaintext to the protocol**, which may accept only a part. -/
def write (p : Protocol σ) (s : Session σ) (b : Bytes) : Except IoError Nat × Session σ :=
  match s.failure with
  | some x => (.error (.described .invalidData x.message), s)
  | none =>
    let w := p.write s.core s.pending b
    (.ok w.accepted, { s with core := w.core, outbox := s.outbox ++ w.records })

/-- Queues the close-notify. -/
def closeNotify (p : Protocol σ) (s : Session σ) : Session σ :=
  let (core, records) := p.closeNotify s.core
  { s with core, outbox := s.outbox ++ records }

end Session

end SecureStream
