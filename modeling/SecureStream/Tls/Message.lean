import SecureStream.Tls.Extension.Form

/-! # Messages of the handshake

The messages that the two sides exchange, with the fields that matter to them. `encode` writes a
message with its header of four octets; `decode` reads what stands behind a header. -/

namespace SecureStream.Tls

/-- What a client opens with. -/
structure ClientHello where
  random : Bytes
  sessionId : Bytes
  suites : List Nat
  extensions : List Extension
deriving DecidableEq, Repr

/-- What a server answers. -/
structure ServerHello where
  version : Nat
  random : Bytes
  sessionId : Bytes
  suite : Nat
  compression : Nat
  extensions : List Extension
deriving DecidableEq, Repr

/-- What a server answers that wants another hello. -/
structure RetryRequest where
  sessionId : Bytes
  suite : Nat
  extensions : List Extension
deriving DecidableEq, Repr

/-- How a client is to show its certificates. -/
structure CertificateRequest where
  schemes : List Nat
  authorities : List Bytes
deriving DecidableEq, Repr

/-- **A message of the handshake.** Of values that only the two ends of a key exchange understand
the octets are kept. -/
inductive Message
  | helloRequest
  | clientHello (hello : ClientHello)
  | serverHello (hello : ServerHello)
  | helloRetryRequest (request : RetryRequest)
  | newSessionTicket (body : Bytes)
  | encryptedExtensions (extensions : List Extension)
  /-- The certificates of a side; version 1.3 puts a context before them and extensions behind
  each. -/
  | certificate (version13 : Bool) (chain : List Bytes)
  | serverKeyExchange (body : Bytes)
  | certificateRequest (version13 : Bool) (request : CertificateRequest)
  | serverHelloDone
  | certificateVerify (scheme : Nat) (signature : Bytes)
  | clientKeyExchange (body : Bytes)
  | finished (body : Bytes)
  | certificateStatus (body : Bytes)
  | keyUpdate (request : Nat)
  | other (type : HandshakeType) (body : Bytes)
deriving DecidableEq, Repr

namespace Message

/-- The type of a message. -/
def type : Message → HandshakeType
  | helloRequest => .helloRequest
  | clientHello _ => .clientHello
  | serverHello _ => .serverHello
  | helloRetryRequest _ => .helloRetryRequest
  | newSessionTicket _ => .newSessionTicket
  | encryptedExtensions _ => .encryptedExtensions
  | certificate .. => .certificate
  | serverKeyExchange _ => .serverKeyExchange
  | certificateRequest .. => .certificateRequest
  | serverHelloDone => .serverHelloDone
  | certificateVerify .. => .certificateVerify
  | clientKeyExchange _ => .clientKeyExchange
  | finished _ => .finished
  | certificateStatus _ => .certificateStatus
  | keyUpdate _ => .keyUpdate
  | other type _ => type

/-- The type in the header of a message: a request for another hello is a kind of hello. -/
def wireType (m : Message) : HandshakeType :=
  if m.type = .helloRetryRequest then .serverHello else m.type

/-- What stands for the random octets of a hello that asks for another one. -/
def retryRandom : Bytes :=
  Bytes.ofNat 32 0xcf21ad74e59a6111be1d8c021e65b891c2a211167abb8c5e079e09e2c8a8339c

/-- The fields that a server's two kinds of hello share. -/
def helloBody (version : Nat) (random sessionId : Bytes) (suite compression : Nat)
    (extensions : List Extension) : Bytes :=
  Bytes.ofNat 2 version ++ random ++ sizedField 1 sessionId ++ Bytes.ofNat 2 suite ++
    Bytes.ofNat 1 compression ++ Extension.encodeAll extensions

/-- The kinds of certificates that a client may have: with a key to sign with. -/
def clientCertificateTypes : Bytes := [1, 64]

/-- The octets of a request for the client's certificates. -/
def requestBody (version13 : Bool) (r : CertificateRequest) : Bytes :=
  if version13 then
    sizedField 1 [] ++
      Extension.encodeAll [.signatureAlgorithms r.schemes, .authorities r.authorities]
  else
    sizedField 1 clientCertificateTypes ++ sizedField 2 (r.schemes.flatMap (Bytes.ofNat 2)) ++
      sizedField 2 (r.authorities.flatMap (sizedField 2))

/-- What stands behind the header. -/
def body : Message → Bytes
  | helloRequest | serverHelloDone => []
  | clientHello h =>
    Bytes.ofNat 2 0x0303 ++ h.random ++ sizedField 1 h.sessionId ++
      sizedField 2 (h.suites.flatMap (Bytes.ofNat 2)) ++ sizedField 1 [0] ++
      Extension.encodeAll h.extensions
  | serverHello h => helloBody h.version h.random h.sessionId h.suite h.compression h.extensions
  | helloRetryRequest r => helloBody 0x0303 retryRandom r.sessionId r.suite 0 r.extensions
  | newSessionTicket b | serverKeyExchange b | clientKeyExchange b | finished b
  | certificateStatus b | other _ b => b
  | encryptedExtensions l => Extension.encodeAll l
  | certificate false chain => sizedField 3 (chain.flatMap (sizedField 3))
  | certificate true chain =>
    0 :: sizedField 3 (chain.flatMap fun c => sizedField 3 c ++ [0, 0])
  | certificateRequest version13 r => requestBody version13 r
  | certificateVerify scheme signature => Bytes.ofNat 2 scheme ++ sizedField 2 signature
  | keyUpdate request => Bytes.ofNat 1 request

/-- **The octets of a message.** -/
def encode (m : Message) : Bytes := UInt8.ofNat m.wireType.code :: sizedField 3 m.body

/-! ### Reading -/

/-- Extensions at the end of a message, where there may be none. -/
def trailing (r : FieldReader (List Extension)) : FieldReader (List Extension) := fun b =>
  if b.isEmpty then .ok ([], []) else r b

/-- An identifier of a session. -/
def readSessionId : FieldReader Bytes := do
  let n ← .number 1 "u8"
  if 32 < n then throw (.trailingData "SessionID") else .octets n "SessionID"

/-- What a client opens with. -/
def readClientHello : FieldReader Message := do
  let _ ← .number 2 "ProtocolVersion"
  let random ← .octets 32 "Random"
  let sessionId ← readSessionId
  let suites ← .listSome 2 (.illegalEmptyList "CipherSuites") (.number 2 "CipherSuite")
  let _ ← FieldReader.listSome 1 (.illegalEmptyList "Compressions") (.number 1 "Compression")
  let extensions ← trailing Extension.readClient
  .done "ClientHelloPayload"
  return clientHello ⟨random, sessionId, suites, extensions⟩

/-- What a server answers that wants another hello. -/
def readRetryRequest : FieldReader Message := do
  let sessionId ← readSessionId
  let suite ← .number 2 "CipherSuite"
  let compression ← .number 1 "Compression"
  if compression ≠ 0 then throw (.named "UnsupportedCompression")
  return helloRetryRequest ⟨sessionId, suite, ← Extension.readRetry⟩

/-- What a server answers, of either kind. -/
def readServerHello : FieldReader Message := do
  let version ← .number 2 "ProtocolVersion"
  let random ← .octets 32 "Random"
  if random = retryRandom then readRetryRequest
  else
    let sessionId ← readSessionId
    let suite ← .number 2 "CipherSuite"
    let compression ← .number 1 "Compression"
    let extensions ← trailing Extension.readServer
    .done "ServerHelloPayload"
    return serverHello ⟨version, random, sessionId, suite, compression, extensions⟩

/-- The longest list of certificates. -/
def maxChain : Nat := 65536

/-- A certificate with extensions behind it. -/
def readEntry : FieldReader Bytes := do
  let c ← .sized 3
  let _ ← .sized 2
  return c

/-- Certificates behind the length of all of them. -/
def readChain (entry : FieldReader Bytes) : FieldReader (List Bytes) := fun b =>
  match StateT.run (FieldReader.number 3 (FieldReader.lengthField 3)) b with
  | .error e => .error e
  | .ok (n, _) =>
    if maxChain < n then .error (.named "CertificatePayloadTooLarge")
    else StateT.run (FieldReader.list 3 entry) b

/-- The certificates of a side. -/
def readCertificate (version13 : Bool) : FieldReader Message := do
  if version13 then
    let _ ← .sized 1
    return certificate true (← readChain readEntry)
  else return certificate false (← readChain (.sized 3))

/-- A request for the client's certificates. -/
def readRequest (version13 : Bool) : FieldReader Message := do
  if version13 then
    let _ ← .sized 1
    let extensions ← Extension.readRequest
    return certificateRequest true ⟨Extension.signatureAlgorithmsOf extensions, []⟩
  else
    let _ ← FieldReader.listSome 1 (.illegalEmptyList "ClientCertificateTypes")
      (.number 1 "ClientCertificateType")
    let schemes ← .listSome 2 (.named "NoSignatureSchemes") (.number 2 "SignatureScheme")
    return certificateRequest false ⟨schemes, ← .list 2 (.sizedSome 2)⟩

/-- A ticket: its lifetime and its octets. -/
def readTicket (version13 : Bool) : FieldReader Message :=
  if version13 then newSessionTicket <$> .rest
  else do
    let lifetime ← FieldReader.octets 4 "u32"
    let ticket ← .sized 2
    return newSessionTicket (lifetime ++ sizedField 2 ticket)

/-- Octets behind their length in three octets, one at least. -/
def readLong : FieldReader Bytes := do
  let n ← .number 3 (FieldReader.lengthField 3)
  if n = 0 then throw (.illegalEmptyList "PayloadU24")
  fun b => if n ≤ b.length then .ok (b.take n, b.drop n) else .error .messageTooShort

/-- How a certificate stands with its issuer. -/
def readStatus : FieldReader Message := do
  let type ← .number 1 "CertificateStatusType"
  if type ≠ 1 then throw (.named "InvalidCertificateStatusType")
  certificateStatus <$> readLong

/-- Certificates in a compressed form. -/
def readCompressed : FieldReader Message := do
  let algorithm ← FieldReader.octets 2 "CertificateCompressionAlgorithm"
  let size ← FieldReader.octets 3 "u24"
  return other .compressedCertificate (algorithm ++ size ++ sizedField 3 (← readLong))

/-- A message of a type. -/
def readBody (version13 : Bool) (type : HandshakeType) : FieldReader Message :=
  if type = .clientHello then readClientHello
  else if type = .serverHello then readServerHello
  else if type = .newSessionTicket then readTicket version13
  else if type = .endOfEarlyData then do
    .done "EndOfEarlyData"
    return other .endOfEarlyData []
  else if type = .helloRetryRequest then throw (.unexpectedMessage "HelloRetryRequest")
  else if type = .encryptedExtensions then encryptedExtensions <$> Extension.readServer
  else if type = .certificate then readCertificate version13
  else if type = .serverKeyExchange then serverKeyExchange <$> .rest
  else if type = .certificateRequest then readRequest version13
  else if type = .serverHelloDone then do
    .done "ServerHelloDone"
    return serverHelloDone
  else if type = .certificateVerify then do
    let scheme ← .number 2 "SignatureScheme"
    return certificateVerify scheme (← .sized 2)
  else if type = .clientKeyExchange then clientKeyExchange <$> .rest
  else if type = .finished then finished <$> .rest
  else if type = .certificateStatus then readStatus
  else if type = .keyUpdate then keyUpdate <$> .number 1 "KeyUpdateRequest"
  else if type = .compressedCertificate then readCompressed
  else if type = .messageHash then throw (.unexpectedMessage "MessageHash")
  else other type <$> .rest

/-- **Reads a message** of a type; nothing may follow it. -/
def decode (version13 : Bool) (type : HandshakeType) (b : Bytes) : Except Corruption Message :=
  if type = .helloRequest ∧ b.isEmpty then .ok helloRequest
  else
    FieldReader.run (do
      let m ← readBody version13 type
      .done "HandshakeMessagePayload"
      return m) b

end Message

/-! ### Several messages one after another -/

/-- The size of a message's header. -/
def messageHeader : Nat := 4

/-- The octets of a message of a type. -/
def messageOctets (type : HandshakeType) (b : Bytes) : Bytes :=
  UInt8.ofNat type.code :: sizedField 3 b

/-- The messages at the front of some octets, each as type and body, and what is left. -/
def splitMessages (b : Bytes) : List (HandshakeType × Bytes) × Bytes :=
  match b with
  | t :: x :: y :: z :: rest =>
    let n := 65536 * x.toNat + 256 * y.toNat + z.toNat
    if rest.length < n then ([], b)
    else
      let (l, left) := splitMessages (rest.drop n)
      ((⟨t.toNat⟩, rest.take n) :: l, left)
  | _ => ([], b)
termination_by b.length
decreasing_by simp only [List.length_drop, List.length_cons]; omega

end SecureStream.Tls
