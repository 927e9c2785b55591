import SecureStream.Loopback.Channel
import SecureStream.Credentials.SigningKey
import SecureStream.Verifier

/-! # A server

What a server is set up with, what it keeps of a connection, and what it waits for. Plaintext that
is written too early waits until the handshake is done (`Server.established`). -/

namespace SecureStream.Loopback

open Tls (Version Alert)

/-- Whether a server asks for the client's certificates. -/
inductive ClientAuth
  | none
  | optional
  | required
deriving DecidableEq, Repr

/-- **What a server is set up with.** -/
structure ServerSetup where
  /-- The server's certificates, its own first. -/
  chain : List Bytes
  key : SigningKey
  versions : List Version
  clientAuth : ClientAuth
  clientRoots : List X509.TrustAnchor
  /-- The application protocols that the server speaks, best first. -/
  alpn : List Bytes
  /-- The tickets that it hands out in version 1.3. -/
  tickets : Nat
  /-- The largest record that it writes. -/
  maxRecord : Option Nat

/-- What the server waits for. -/
inductive ServerStage
  | clientHello
  | certificate13
  | certificateVerify13
  | finished13
  | traffic13
  | certificate12
  | clientKeyExchange
  | certificateVerify12
  | change
  | finished12
  | traffic12
deriving DecidableEq, Repr

/-- Whether plaintext may be exchanged. -/
def ServerStage.isTraffic : ServerStage → Bool
  | traffic13 | traffic12 => true
  | _ => false

/-- **The server's side of a connection.** -/
structure Server where
  setup : ServerSetup
  stage : ServerStage
  channel : Channel
  /-- Octets that were read and not worked on yet. -/
  input : Bytes
  received : Bytes
  /-- Plaintext that waits for the end of the handshake. -/
  early : Bytes
  closed : Bool
  failed : Bool
  /-- The name that the client asked for. -/
  name : Option Bytes
  alpn : Option Bytes
  /-- The client's certificates, its own first. -/
  clientChain : List Bytes
  /-- Whether the client has shown that it holds the key. -/
  isProven : Bool

namespace Server

/-- A server before it has read anything. -/
def fresh (setup : ServerSetup) : Server where
  setup := setup
  stage := .clientHello
  channel := .fresh setup.maxRecord
  input := []
  received := []
  early := []
  closed := false
  failed := false
  name := none
  alpn := none
  clientChain := []
  isProven := false

/-- Whether the handshake is not done. -/
def isHandshaking (s : Server) : Bool := !s.stage.isTraffic

/-- The client's certificates, once it has shown that they are its own. -/
def clientChain? (s : Server) : Option (List Bytes) :=
  if s.isProven then some s.clientChain else none

/-! ### Failing -/

/-- Fails without telling the client. -/
def failSilently (s : Server) : Server := { s with failed := true }

/-- Fails and tells the client. -/
def fail (a : Alert) (s : Server) : Server :=
  { s with failed := true, channel := s.channel.emitFatal a }

/-! ### Plaintext -/

/-- **Writes plaintext**, as soon as the handshake is done. -/
def write (b : Bytes) (s : Server) : Server :=
  if b.isEmpty then s
  else if s.isHandshaking then { s with early := s.early ++ b }
  else if s.failed then s
  else { s with channel := s.channel.emit .applicationData b }

/-- The handshake is done: the plaintext that waits is written. -/
def established (stage : ServerStage) (s : Server) : Server :=
  write s.early { s with stage, early := [] }

/-! ### Keys -/

/-- Goes on if the keys may change here, and fails if octets follow. -/
def aligned (s : Server) (next : Server → Server) : Server :=
  if s.channel.isAligned then next s else s.fail .unexpectedMessage

end Server

end SecureStream.Loopback
