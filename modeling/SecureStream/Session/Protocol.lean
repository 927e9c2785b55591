import SecureStream.Session.Setup

/-! # The protocol beneath a session

What a session needs of the TLS protocol, as operations on a state that the session does not look
into: octets from the peer go in, records for the peer and plaintext come out. -/

namespace SecureStream

/-- What the two sides agreed on. -/
structure Agreement where
  version : Option Tls.Version
  suite : Option String
  alpn : Option Bytes
  /-- The server's certificates, its own first. -/
  peerChain : Option (List Bytes)
deriving DecidableEq

/-- What came of the octets that were fed. -/
structure Processed (σ : Type) where
  core : σ
  /-- Records for the peer. -/
  records : List Bytes
  plaintext : Bytes
  /-- Whether the peer's close-notify was among them. -/
  closed : Bool
  /-- What went wrong, for good. -/
  failure : Option TlsError

/-- What came of plaintext that was offered. -/
structure Written (σ : Type) where
  core : σ
  accepted : Nat
  records : List Bytes

/-- **The protocol as a session sees it.** -/
structure Protocol (σ : Type) where
  /-- A fresh state with the first records, or why there is none; and what is left of the source of
  random bytes. -/
  start : SessionSetup → Entropy → Except TlsError (σ × List Bytes) × Entropy
  isHandshaking : σ → Bool
  /-- How many octets the next read may bring, `none` if there is no room. -/
  room : σ → Option Nat × σ
  feed : σ → Bytes → σ
  process : σ → Processed σ
  /-- Takes plaintext, given how many octets of records are still waiting. -/
  write : σ → (pending : Nat) → Bytes → Written σ
  closeNotify : σ → σ × List Bytes
  agreement : σ → Agreement

end SecureStream
