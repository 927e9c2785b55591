import SecureStream.Loopback.Server.Basic
import SecureStream.Tls.KeyExchange

/-! # The server's answer to the client's hello

The server takes the best version that both sides speak, the first of the client's suites that goes
with its key, and the first of its own application protocols that the client offers. Its hello is
followed by its certificates and the proof that it holds their key, and perhaps by a request for the
client's (`Server.onHello`). -/

namespace SecureStream.Loopback.Server

open Tls (Version Alert Message Extension KeyGroup ServerKeyExchange ClientHello ServerHello)

/-! ### Choosing -/

/-- The schemes by which a client may sign. Those of lattice keys are of version 1.3 alone. -/
def clientSchemes (version : Version) : List Nat :=
  let all := Signature.Table.standard.supportedSchemes.map Signature.Scheme.code
  match version with
  | .v13 => all
  | .v12 => all.filter fun x => x ∈ Tls.KeyFamily.ecdsa.codes ++ Tls.KeyFamily.rsa.codes

/-- The kind of suite that a key goes with in version 1.2, where there is one. -/
def familyOf : SigningKey → Option Tls.KeyFamily
  | .rsa _ => some .rsa
  | .ecdsa .. | .ed25519 _ => some .ecdsa
  | .mlDsa .. => none

/-- The first of the client's suites that goes with the version and the key. -/
def suite? (version : Version) (h : ClientHello) (key : SigningKey) : Option Tls.Suite :=
  let usable := (Tls.Suite.ofVersion13 ++ Tls.Suite.ofVersion12).filter fun s =>
    s.version == version && s.signer.all (familyOf key == some ·)
  h.suites.findSome? fun code => usable.find? fun s => s.code == code

/-- The schemes that go with a kind of suite in version 1.2. -/
def schemesOf : Option Tls.KeyFamily → List Signature.Scheme
  | none => []
  | some .rsa =>
    [.rsaPssSha512, .rsaPssSha384, .rsaPssSha256, .rsaPkcs1Sha512, .rsaPkcs1Sha384,
      .rsaPkcs1Sha256]
  | some .ecdsa => [.ed25519, .ecdsaP521Sha512, .ecdsaP384Sha384, .ecdsaP256Sha256]

/-- Whether a scheme is one of version 1.2 alone. -/
def isLegacy (s : Signature.Scheme) : Bool :=
  s ∈ [Signature.Scheme.rsaPkcs1Sha512, .rsaPkcs1Sha384, .rsaPkcs1Sha256]

/-- **The application protocol**: the first of the server's that the client offers. Both may go
without one, but not with lists that have nothing in common. -/
def agreeAlpn (own : List Bytes) : Option (List Bytes) → Except Alert (Option Bytes)
  | none => .ok none
  | some offered =>
    match own.find? (· ∈ offered) with
    | some p => .ok (some p)
    | none => if own.isEmpty then .ok none else .error .noApplicationProtocol

/-! ### Messages -/

/-- The octets that a server draws for its hello. -/
def serverRandom : Bytes := nonce 201 32

/-- The identifier that a server of version 1.2 gives a session. -/
def sessionId : Bytes := nonce 142 32

/-- The server's share in a group. -/
def share (g : KeyGroup) : Bytes := nonce 17 g.serverSize

/-- The extensions that answer the client's: the application protocol, and the sign that the name
was understood. -/
def answers (h : ClientHello) (alpn : Option Bytes) : List Extension :=
  (alpn.toList.map fun p => .alpn [p]) ++
    (if Extension.has Extension.serverNameType h.extensions then
      [⟨Extension.serverNameType, []⟩] else [])

/-- The request for the client's certificates, which names the roots that may certify it. -/
def request (version : Version) (s : Server) : List Message :=
  if s.setup.clientAuth = .none then []
  else
    let names := s.setup.clientRoots.map fun a => Der.element Der.sequence a.subject
    [.certificateRequest (version == .v13) ⟨clientSchemes version, names⟩]

/-! ### Version 1.3 -/

/-- The hello of version 1.3, with which the keys change. It repeats the client's identifier. -/
def greet13 (h : ClientHello) (suite : Tls.Suite) (s : Server) : Server :=
  let g := KeyGroup.x25519MlKem768
  let hello : ServerHello := ⟨0x0303, serverRandom, h.sessionId, suite.code, 0,
    [.selectedVersion 0x0304, .keyShare g.code (share g)]⟩
  let channel := (s.channel.emitMessages [.serverHello hello]).emitChange.agree
  let channel := { channel with version := some .v13 }
  { s with channel := (channel.writeWith .server .v13 0).readWith .client .v13 0 }

/-- The messages of version 1.3 after the hello, which go together. -/
def flight13 (h : ClientHello) (alpn : Option Bytes) (scheme : Signature.Scheme) (s : Server) :
    List Message :=
  .encryptedExtensions (answers h alpn) :: s.request .v13 ++
    [.certificate true s.setup.chain,
      .certificateVerify scheme.code (filler s.setup.key.signatureSize), .finished (filler 48)]

/-- Answers in version 1.3. -/
def answer13 (h : ClientHello) (s : Server) : Server :=
  match suite? .v13 h s.setup.key with
  | none => s.fail .handshakeFailure
  | some suite =>
    let s := s.greet13 h suite
    match agreeAlpn s.setup.alpn (Extension.alpnOf? h.extensions) with
    | .error a => s.fail a
    | .ok alpn =>
      let s := { s with alpn }
      let offered := Extension.signatureAlgorithmsOf h.extensions
      match s.setup.key.schemes.find? fun x => !isLegacy x && x.code ∈ offered with
      | none => s.fail .handshakeFailure
      | some scheme =>
        let channel := (s.channel.emitMessages (s.flight13 h alpn scheme)).agree
        { s with
          channel := channel.writeWith .server .v13 1
          stage := if s.setup.clientAuth = .none then .finished13 else .certificate13 }

/-! ### Version 1.2 -/

/-- The hello of version 1.2, for a session of its own. -/
def hello12 (h : ClientHello) (suite : Tls.Suite) (alpn : Option Bytes) : ServerHello :=
  ⟨0x0303, serverRandom, sessionId, suite.code, 0,
    [⟨Extension.renegotiationType, [0]⟩, ⟨Extension.masterSecretType, []⟩] ++ answers h alpn⟩

/-- The server's share, signed together with the random octets of both sides. -/
def exchange (h : ClientHello) (scheme : Signature.Scheme) (key : SigningKey) : ServerKeyExchange :=
  let g := KeyGroup.x25519
  let x : ServerKeyExchange := ⟨g.code, share g, scheme.code, []⟩
  { x with
    signature :=
      standIn key.publicKeyInfo (h.random ++ serverRandom ++ x.params) key.signatureSize }

/-- The messages of version 1.2, which go together. -/
def flight12 (h : ClientHello) (suite : Tls.Suite) (alpn : Option Bytes)
    (scheme : Signature.Scheme) (s : Server) : List Message :=
  [.serverHello (hello12 h suite alpn), .certificate false s.setup.chain,
    .serverKeyExchange (exchange h scheme s.setup.key).encode] ++ s.request .v12 ++
    [.serverHelloDone]

/-- Answers in version 1.2. -/
def answer12 (h : ClientHello) (s : Server) : Server :=
  let s := { s with channel := { s.channel with version := some .v12 } }
  match suite? .v12 h s.setup.key with
  | none => s.fail .handshakeFailure
  | some suite =>
    let offered := Extension.signatureAlgorithmsOf h.extensions
    let schemes := (schemesOf (familyOf s.setup.key)).filter fun x => x.code ∈ offered
    if schemes.isEmpty then s.fail .handshakeFailure
    else
      match agreeAlpn s.setup.alpn (Extension.alpnOf? h.extensions) with
      | .error a => s.fail a
      | .ok alpn =>
        let s := { s with alpn }
        match s.setup.key.schemes.find? (· ∈ schemes) with
        | none => s.failSilently
        | some scheme =>
          { s with
            channel := s.channel.emitMessages (s.flight12 h suite alpn scheme)
            stage := if s.setup.clientAuth = .none then .clientKeyExchange else .certificate12 }

/-! ### Both versions -/

/-- **The client's hello.** The best version that both sides speak is taken. -/
def onHello (h : ClientHello) (s : Server) : Server :=
  let s := { s with name := Extension.serverNameOf? h.extensions }
  let offered := Extension.supportedVersionsOf h.extensions
  if 0x0304 ∈ offered ∧ .v13 ∈ s.setup.versions then s.answer13 h
  else if 0x0303 ∈ offered ∧ .v12 ∈ s.setup.versions then s.answer12 h
  else s.fail .protocolVersion

end SecureStream.Loopback.Server
