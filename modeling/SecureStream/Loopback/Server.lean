import SecureStream.Loopback.Server.Answer

/-! # The server's side

The server answers the client's hello, follows the client through the handshake, and keeps the
plaintext that comes afterwards. After a failure it ignores what comes.

* `Server.deliver`: follows what came from the client.
* `Server.write`, `closeNotify`, `requestKeyUpdate`: what a server does on its own. -/

namespace SecureStream.Loopback.Server

open Tls (Record RecordType Alert HandshakeType Message)

/-! ### Following the client -/

/-- Judges the client's certificates. -/
def judgeClient (now : Nat) (roots : List X509.TrustAnchor) (endEntity : Bytes)
    (intermediates : List Bytes) : Except Tls.CertificateError Unit := do
  let certificate ← X509.Certificate.read .refuse endEntity
  X509.Path.verify
    { algorithms := Signature.Table.standard.algorithms, anchors := roots, intermediates,
      purpose := .clientAuth, now } certificate

/-- The client's certificates: with some the client has to show that it holds the key. -/
def onCertificates (now : Nat) (chain : List Bytes) (without withSome : ServerStage) (s : Server) :
    Server :=
  match chain with
  | [] =>
    if s.setup.clientAuth = .required then s.fail .certificateRequired
    else { s with stage := without }
  | endEntity :: intermediates =>
    match judgeClient now s.setup.clientRoots endEntity intermediates with
    | .error e => s.fail e.alert
    | .ok () => { s with stage := withSome, clientChain := chain }

/-- The octets of a ticket. -/
def ticketSize : Nat := 77

/-- The end of the client's messages in version 1.3. -/
def onFinished13 (s : Server) : Server :=
  s.aligned fun s =>
    let channel := s.channel.readWith .client .v13 1
    let tickets := List.replicate s.setup.tickets (Message.newSessionTicket (filler ticketSize))
    let channel := if tickets.isEmpty then channel else channel.emitMessages tickets
    { s with channel }.established .traffic13

/-- The client's share of the key exchange in version 1.2, from which the keys follow. -/
def onKeyExchange (s : Server) : Server :=
  { s with
    channel := s.channel.agree
    stage := if s.clientChain.isEmpty then .change else .certificateVerify12 }

/-- The end of the client's messages in version 1.2. -/
def onFinished12 (s : Server) : Server :=
  s.aligned fun s =>
    let channel := s.channel.emitChange.writeWith .server .v12 0
    { s with channel := channel.emitMessages [.finished (filler 12)] }.established .traffic12

/-- **One message of the client.** -/
def onMessage (now : Nat) (m : Message) (s : Server) : Server :=
  match s.stage, m with
  | .clientHello, .clientHello h => s.aligned (onHello h)
  | .certificate13, .certificate _ chain =>
    s.onCertificates now chain .finished13 .certificateVerify13
  | .certificateVerify13, .certificateVerify .. =>
    { s with stage := .finished13, isProven := true }
  | .finished13, .finished _ => s.onFinished13
  | .traffic13, .keyUpdate _ =>
    s.aligned fun s => { s with channel := { s.channel with reading := s.channel.reading.rekeyed } }
  | .certificate12, .certificate _ chain =>
    s.onCertificates now chain .clientKeyExchange .clientKeyExchange
  | .clientKeyExchange, .clientKeyExchange _ => s.onKeyExchange
  | .certificateVerify12, .certificateVerify .. => { s with stage := .change, isProven := true }
  | .finished12, .finished _ => s.onFinished12
  | _, _ => s.fail .unexpectedMessage

/-- Messages one after another, up to a failure. -/
def onMessages (now : Nat) : List (HandshakeType × Bytes) → Server → Server
  | [], s => s
  | (type, b) :: rest, s =>
    let s := { s with channel := s.channel.turnTo type b rest }
    let s :=
      match Message.decode (s.channel.version == some .v13) type b with
      | .error _ => s.fail .decodeError
      | .ok m => s.onMessage now m
    if s.failed then s else onMessages now rest s

/-- Contents of the handshake. -/
def onHandshake (now : Nat) (b : Bytes) (s : Server) : Server :=
  let (messages, channel) := s.channel.collect b
  let s := { s with channel }
  if channel.isOversized then s.failSilently else s.onMessages now messages

/-- The announcement of marked records. In version 1.3 it means nothing. -/
def onChange (s : Server) : Server :=
  if s.channel.version = some .v13 ∧ s.isHandshaking then s
  else if s.stage = .change then
    s.aligned fun s =>
      { s with stage := .finished12, channel := s.channel.readWith .client .v12 0 }
  else s.fail .unexpectedMessage

/-- An alert of the client: a close-notify ends the connection in order, and all others are failures
apart from warnings. -/
def onAlert (level : UInt8) (a : Alert) (s : Server) : Server :=
  if a = .closeNotify ∧ s.stage.isTraffic then { s with closed := true }
  else if level = 1 then s
  else s.failSilently

/-- Contents of any type. -/
def onContents (now : Nat) (type : RecordType) (b : Bytes) (s : Server) : Server :=
  if type = .handshake then s.onHandshake now b
  else if !s.channel.fragment.isEmpty then s.failSilently
  else if type = .alert then
    match b with
    | [level, code] => s.onAlert level ⟨code.toNat⟩
    | _ => s.fail .decodeError
  else if type = .changeCipherSpec then s.onChange
  else if type = .applicationData ∧ s.stage.isTraffic then
    { s with received := s.received ++ b }
  else s.fail .unexpectedMessage

/-- **One record.** -/
def onRecord (now : Nat) (r : Record) (s : Server) : Server :=
  match s.channel.opened? r with
  | none => s.fail .badRecordMac
  | some ((type, b), channel) =>
    match channel.countEmpty b with
    | none => s.failSilently
    | some channel => { s with channel }.onContents now type b

/-- **Follows the octets that came**, up to a failure or a close-notify, after which nothing
counts. -/
def work (now : Nat) (input : Bytes) (s : Server) : Server :=
  if s.failed ∨ s.closed then { s with input := [] }
  else
    match _h : Record.next input with
    | .incomplete => { s with input }
    | .broken _ => { s with input }.fail .decodeError
    | .record r rest => work now rest (s.onRecord now r)
termination_by input.length
decreasing_by exact Record.length_next (by assumption)

/-! ### What a server does -/

/-- **Takes octets of the client.** -/
def deliver (now : Nat) (b : Bytes) (s : Server) : Server := s.work now (s.input ++ b)

/-- Writes the close-notify. -/
def closeNotify (s : Server) : Server := { s with channel := s.channel.emitCloseNotify }

/-- Changes the keys and asks the client to do the same, where the version has that. The result
tells whether it has. -/
def requestKeyUpdate (s : Server) : Bool × Server :=
  if s.stage = .traffic13 ∧ !s.failed then
    let channel := s.channel.emitMessages [.keyUpdate 1]
    (true, { s with channel := { channel with writing := channel.writing.rekeyed } })
  else (false, s)

/-- Hands the records on. -/
def handOn (s : Server) : List Bytes × Server :=
  let (records, channel) := s.channel.handOn
  (records, { s with channel })

end SecureStream.Loopback.Server
