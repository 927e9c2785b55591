import SecureStream.Loopback.Client.Flight

/-! # The client's side

The client opens with a hello, follows the server's messages in their order, and answers. Afterwards
the two sides exchange plaintext; the server may hand out tickets and ask for new keys.

* `Client.work`: follows what came from the server.
* `Client.protocol`: the client as the protocol of a session. -/

namespace SecureStream.Loopback.Client

open Tls (Record RecordType Alert HandshakeType Message Extension)

/-! ### Messages -/

/-- **One message of the server.** -/
def onMessage (now : Nat) (m : Message) (c : Client) : Client :=
  match c.stage, m with
  | .serverHello, .serverHello h => c.onServerHello h
  | .serverHello, .helloRetryRequest r => c.onRetryRequest r
  | .encryptedExtensions, .encryptedExtensions l =>
    { c with stage := .certificateOrRequest, alpn := (Extension.alpnOf? l).bind List.head? }
  | .certificateOrRequest, .certificateRequest _ r => c.onRequest true r
  | .certificateOrRequest, .certificate _ chain | .certificate13, .certificate _ chain =>
    { c with stage := .certificateVerify, peerChain := chain }
  | .certificateVerify, .certificateVerify .. =>
    c.judged now fun c => { c with stage := .finished13 }
  | .finished13, .finished _ => c.onFinished13
  | .traffic13, .newSessionTicket _ => c
  | .traffic13, .keyUpdate request => c.onKeyUpdate request
  | .certificate12, .certificate _ chain => c.onCertificate12 chain
  | .statusOrExchange, .certificateStatus _ => { c with stage := .serverKeyExchange }
  | .statusOrExchange, .serverKeyExchange b | .serverKeyExchange, .serverKeyExchange b =>
    c.onKeyExchange b
  | .requestOrDone, .certificateRequest _ r => c.onRequest false r
  | .requestOrDone, .serverHelloDone | .done, .serverHelloDone => c.onHelloDone now
  | .newTicket, .newSessionTicket _ => { c with stage := .change }
  | .finished12, .finished _ => { c with stage := .traffic12 }
  | _, m => c.failMessage m.type

/-- Messages one after another, up to a failure. -/
def onMessages (now : Nat) : List (HandshakeType × Bytes) → Client → Client
  | [], c => c
  | (type, b) :: rest, c =>
    let c := { c with channel := c.channel.turnTo type b rest }
    let c :=
      match Message.decode (c.channel.version == some .v13) type b with
      | .error d => c.fail .decodeError (.invalidMessage d)
      | .ok m => c.onMessage now m
    if c.failure.isSome then c else onMessages now rest c

/-- Contents of the handshake, from a record of a size. -/
def onHandshake (now : Nat) (size : Nat) (b : Bytes) (c : Client) : Client :=
  let (messages, channel) := c.channel.collect b
  let held := if channel.fragment.isEmpty then 0 else c.held + size
  let c := { c with channel, held }
  if channel.isOversized then c.failSilently (.invalidMessage (.named "HandshakePayloadTooLarge"))
  else c.onMessages now messages

/-- An alert of the server. -/
def onAlert (level : Nat) (a : Alert) (c : Client) : Client :=
  let received := TlsError.alertReceived a
  if level ≠ 1 ∧ level ≠ 2 then c.fail .illegalParameter received
  else if c.stage.isTraffic ∧ a = .closeNotify then { c with closed := true }
  else if level = 1 then
    if c.warnings = 0 then c.failSilently (.peerMisbehaved "TooManyWarningAlertsReceived")
    else
      let c := { c with warnings := c.warnings - 1 }
      if c.channel.version = some .v13 ∧ a ≠ .userCanceled then c.fail .decodeError received else c
  else c.failSilently received

/-- The announcement of marked records. In version 1.3 it means nothing, but it has to be well
formed and must not come too often. -/
def onChange (b : Bytes) (c : Client) : Client :=
  if c.channel.version = some .v13 ∧ !c.stage.isTraffic then
    let misplaced := TlsError.peerMisbehaved "IllegalMiddleboxChangeCipherSpec"
    if b ≠ [1] then c.fail .unexpectedMessage misplaced
    else if c.changes = 0 then c.failSilently misplaced
    else { c with changes := c.changes - 1 }
  else
    match b with
    | [] => c.fail .decodeError (.invalidMessage (.missingData "u8"))
    | x :: rest =>
      if x ≠ 1 then c.fail .decodeError (.invalidMessage (.named "InvalidCcs"))
      else if !rest.isEmpty then
        c.fail .decodeError (.invalidMessage (.trailingData "ChangeCipherSpecPayload"))
      else if c.stage = .change then
        c.aligned fun c =>
          { c with stage := .finished12, channel := c.channel.readWith .server .v12 0 }
      else c.failRecord .changeCipherSpec

/-- Contents of any type. -/
def onContents (now : Nat) (size : Nat) (type : RecordType) (b : Bytes) (c : Client) : Client :=
  if type = .handshake then c.onHandshake now size b
  else if !c.channel.fragment.isEmpty then
    c.failSilently (.peerMisbehaved "MessageInterleavedWithHandshakeMessage")
  else if type = .alert then
    match b with
    | [] => c.fail .decodeError (.invalidMessage (.missingData "AlertLevel"))
    | [_] => c.fail .decodeError (.invalidMessage (.missingData "AlertDescription"))
    | [level, code] => c.onAlert level.toNat ⟨code.toNat⟩
    | _ => c.fail .decodeError (.invalidMessage (.trailingData "AlertMessagePayload"))
  else if type = .changeCipherSpec then c.onChange b
  else if type = .applicationData then
    if c.stage.isTraffic then
      { c with received := c.received ++ b, updates := 32 }
    else c.failRecord .applicationData
  else c.fail .decodeError (.invalidMessage .invalidContentType)

/-- **One record**, which takes up a number of octets. -/
def onRecord (now : Nat) (size : Nat) (r : Record) (c : Client) : Client :=
  match c.channel.opened? r with
  | none => c.fail .badRecordMac .decryptError
  | some ((type, b), channel) =>
    match channel.countEmpty b with
    | none => c.failSilently (.peerMisbehaved "TooManyEmptyFragments")
    | some channel => { c with channel }.onContents now size type b

/-- **Follows the octets that came**, up to a failure or a close-notify, after which nothing
counts. -/
def work (now : Nat) (input : Bytes) (c : Client) : Client :=
  match _h : Record.next input with
  | .incomplete => { c with input }
  | .broken d => { c with input }.fail .decodeError (.invalidMessage d)
  | .record r rest =>
    let c := c.onRecord now (input.length - rest.length) r
    if c.failure.isSome then { c with input := rest }
    else if c.closed then { c with input := [], held := 0 }
    else work now rest c
termination_by input.length
decreasing_by exact Record.length_next (by assumption)

/-! ### The client as a protocol -/

/-- The octets that a read asks for at least. -/
def readSize : Nat := 4096

/-- The largest buffer while no message is incomplete. -/
def maxWire : Nat := Record.payloadLimit + Record.headerSize

/-- How many octets the next read may bring: the buffer grows to leave room for a read of the usual
size, and shrinks when it is empty. -/
def room (c : Client) : Option Nat × Client :=
  let used := c.held + c.input.length
  let limit := if c.channel.fragment.isEmpty then maxWire else Channel.maxMessage
  if limit ≤ used then (none, c)
  else
    let need := min limit (used + readSize)
    let capacity :=
      if c.capacity < need ∨ used = 0 ∨ limit < c.capacity then need else c.capacity
    (some (capacity - used), { c with capacity })

/-- The records and the plaintext that are not handed on yet. -/
def handOn (c : Client) : Processed Client :=
  let (records, channel) := c.channel.handOn
  ⟨{ c with channel, received := [] }, records, c.received, c.closed, c.failure⟩

/-- The octets of records that may wait while plaintext is still taken. -/
def maxPending : Nat := 65536

/-- Takes plaintext as far as there is room for its records. -/
def write (c : Client) (pending : Nat) (b : Bytes) : Written Client :=
  let waiting := pending + (c.channel.update.map List.length).getD 0
  let accepted := b.take (maxPending - waiting)
  let channel := { c.channel with
    written := c.channel.written ++ c.channel.update.toList
    update := none }
  let channel := if accepted.isEmpty then channel else channel.emit .applicationData accepted
  let (records, channel) := channel.handOn
  ⟨{ c with channel }, accepted.length, records⟩

/-- Writes the close-notify. -/
def closeNotify (c : Client) : Client × List Bytes :=
  let (records, channel) := c.channel.emitCloseNotify.handOn
  ({ c with channel }, records)

/-- **The client as the protocol of a session**, at a fixed moment. -/
def protocol (now : Nat) : Protocol Client where
  start := start
  isHandshaking c := !c.stage.isTraffic
  room := room
  feed c b := { c with input := c.input ++ b }
  process c := (c.work now c.input).handOn
  write := write
  closeNotify := closeNotify
  agreement c :=
    { version := c.channel.version
      suite := c.suite.map Tls.Suite.name
      alpn := c.alpn
      peerChain := if c.peerChain.isEmpty then none else some c.peerChain }

end SecureStream.Loopback.Client
