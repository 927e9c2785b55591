import SecureStream.Loopback.Channel
import SecureStream.Session.Protocol
import SecureStream.Tls.KeyExchange

/-! # A client and its hello

What the client's side of a connection keeps, what it waits for, and the hello that it opens with.

* `Client.start`: the hello.
* `Client.fail`, `Client.refuse`: how it gives up. -/

namespace SecureStream.Loopback

open Tls (Record RecordType Version Alert Corruption HandshakeType Message Extension)

/-- What the client waits for. -/
inductive ClientStage
  | serverHello
  | encryptedExtensions
  | certificateOrRequest
  | certificate13
  | certificateVerify
  | finished13
  | traffic13
  | certificate12
  | statusOrExchange
  | serverKeyExchange
  | requestOrDone
  | done
  | newTicket
  | change
  | finished12
  | traffic12
deriving DecidableEq, Repr

namespace ClientStage

/-- Whether plaintext may be exchanged. -/
def isTraffic : ClientStage → Bool
  | traffic13 | traffic12 => true
  | _ => false

/-- The types of records and of messages that are expected. -/
def expected : ClientStage → List RecordType × List HandshakeType
  | serverHello => ([.handshake], [.serverHello, .helloRetryRequest])
  | encryptedExtensions => ([.handshake], [.encryptedExtensions])
  | certificateOrRequest => ([.handshake], [.certificate, .certificateRequest])
  | certificate13 | certificate12 => ([.handshake], [.certificate])
  | certificateVerify => ([.handshake], [.certificateVerify])
  | finished13 | finished12 => ([.handshake], [.finished])
  | traffic13 => ([.applicationData, .handshake], [.newSessionTicket, .keyUpdate])
  | statusOrExchange => ([.handshake], [.serverKeyExchange, .certificateStatus])
  | serverKeyExchange => ([.handshake], [.serverKeyExchange])
  | requestOrDone | done => ([.handshake], [.serverHelloDone])
  | newTicket => ([.handshake], [.newSessionTicket])
  | change => ([.changeCipherSpec], [])
  | traffic12 => ([.applicationData], [])

end ClientStage

/-- **The client's side of a connection.** -/
structure Client where
  setup : SessionSetup
  stage : ClientStage
  channel : Channel
  /-- Octets that were read and not worked on yet. -/
  input : Bytes
  /-- Octets that were worked on and are kept for a message that is not complete. -/
  held : Nat
  /-- The size of the buffer for what is read. -/
  capacity : Nat
  received : Bytes
  closed : Bool
  failure : Option TlsError
  /-- The server's hello, once it is accepted. -/
  greeting : Option Tls.ServerHello
  suite : Option Tls.Suite
  alpn : Option Bytes
  peerChain : List Bytes
  /-- The server's share with its signature, in version 1.2. -/
  exchange : Option Tls.ServerKeyExchange
  /-- The schemes by which the server wants the client to sign, if it wants that. -/
  requested : Option (List Nat)
  /-- The warnings that are still accepted. -/
  warnings : Nat
  /-- The changes of keys that are still accepted. -/
  updates : Nat
  /-- The announcements of marked records that are still accepted. -/
  changes : Nat

namespace Client

/-! ### Failing -/

/-- Fails without telling the server. -/
def failSilently (x : TlsError) (c : Client) : Client := { c with failure := some x }

/-- Fails and tells the server. -/
def fail (a : Alert) (x : TlsError) (c : Client) : Client :=
  { c with failure := some x, channel := c.channel.emitFatal a }

/-- Why a client gives up, and the alert by which it tells the server. -/
structure Refusal where
  alert : Alert
  error : TlsError

/-- Gives up for a reason. -/
def refuse (r : Refusal) (c : Client) : Client := c.fail r.alert r.error

/-- The reason that the server breaks a rule. -/
def misbehaved (a : Alert) (rule : String) : Refusal := ⟨a, .peerMisbehaved rule⟩

/-- Fails on a record that does not fit. -/
def failRecord (got : RecordType) (c : Client) : Client :=
  c.fail .unexpectedMessage (.inappropriateMessage c.stage.expected.1 got)

/-- Fails on a message that does not fit. -/
def failMessage (got : HandshakeType) (c : Client) : Client :=
  if c.stage.expected.2.isEmpty then c.failRecord .handshake
  else c.fail .unexpectedMessage (.inappropriateHandshakeMessage c.stage.expected.2 got)

/-! ### Starting -/

/-- The times that a start draws random bytes: for an identifier, a nonce and an order. -/
def startDraws : Nat := 3

/-- The octets that a client draws for its hello. -/
def clientRandom : Bytes := nonce 91 32

/-- The identifier of a session, which only servers of version 1.3 send back. -/
def sessionId : Bytes := nonce 58 32

/-- The name that is sent to a server: in lower case and without the point at its end. -/
def sentName (s : String) : Bytes :=
  let l := s.toList.map Char.toLower
  Bytes.ofText (String.ofList (if l.getLast? = some '.' then l.dropLast else l))

/-- The wish to learn how a certificate stands with its issuer, by no issuer in particular. -/
def statusRequest : Extension := ⟨Extension.statusRequestType, [1, 0, 0, 0, 0]⟩

/-- How keys that both sides know already may be used: with a key exchange. -/
def keyModes : Extension := ⟨Extension.keyModesType, [1, 1]⟩

/-- The extensions of the hello. -/
def helloExtensions (s : SessionSetup) : List Extension :=
  [.supportedVersions [0x0304, 0x0303],
    .supportedGroups (s.provider.groups.map Tls.KeyGroup.code),
    .signatureAlgorithms (s.verifier.supportedSchemes.map Signature.Scheme.code),
    ⟨Extension.masterSecretType, []⟩, statusRequest, .pointFormats,
    .keyShares (Tls.KeyGroup.shared.map fun g => (g.code, filler g.clientSize)),
    keyModes, ⟨Extension.sessionTicketType, []⟩] ++
  (match s.server with
    | .dns name => if s.enableSni then [Extension.serverName (sentName name)] else []
    | .address _ => []) ++
  (if s.alpn.isEmpty then [] else [Extension.alpn s.alpn])

/-- The hello. Behind the suites stands the sign that a change of keys is safe. -/
def hello (s : SessionSetup) : Message :=
  .clientHello ⟨clientRandom, sessionId, s.provider.suites.map Tls.Suite.code ++ [0x00ff],
    helloExtensions s⟩

/-- The client before it has read anything. -/
def fresh (s : SessionSetup) : Client where
  setup := s
  stage := .serverHello
  channel := (Channel.fresh s.maxFragmentSize).emitMessages [hello s]
  input := []
  held := 0
  capacity := 0
  received := []
  closed := false
  failure := none
  greeting := none
  suite := none
  alpn := none
  peerChain := []
  exchange := none
  requested := none
  warnings := 4
  updates := 32
  changes := 2

/-- **Starts a client**, which takes some random bytes. -/
def start (s : SessionSetup) (source : Entropy) :
    Except TlsError (Client × List Bytes) × Entropy :=
  match source.drawMany startDraws with
  | (false, source) => (.error .failedToGetRandomBytes, source)
  | (true, source) =>
    let c := fresh s
    let (records, channel) := c.channel.handOn
    (.ok ({ c with channel }, records), source)

/-- Goes on if the keys may change here, and fails if octets follow. -/
def aligned (c : Client) (next : Client → Client) : Client :=
  if c.channel.isAligned then next c
  else c.refuse (misbehaved .unexpectedMessage "KeyEpochWithPendingFragment")

end Client

end SecureStream.Loopback
