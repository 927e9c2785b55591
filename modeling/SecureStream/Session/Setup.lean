import SecureStream.Credentials.Loader
import SecureStream.Credentials.SigningKey.Reader
import SecureStream.Logged
import SecureStream.Verifier

/-! # Setting up a session

What a session needs is put together from a provider, the host, the credentials and the
configuration. The stages that may fail are taken in a fixed order; optional features that cannot
be used are dropped with a log event.

* `configure`: the whole setup.
* `ServerName.ofHost`: the server that the host names.
* `offeredAlpn`, `usableFragmentSize`: the optional features. -/

namespace SecureStream

/-- **The server that a host names.** -/
def ServerName.ofHost (host : String) : Except TransportError ServerName :=
  match ofText? host with
  | some name => .ok name
  | none => .error (.invalidParameter ("invalid server name '" ++ host ++ "': invalid dns name"))

/-- A client's certificates with the key of the first. -/
structure ClientSigner where
  chain : List Bytes
  key : SigningKey
deriving DecidableEq, Repr

/-- **All that a session is made of.** -/
structure SessionSetup where
  provider : Provider
  verifier : Verifier
  client : Option ClientSigner
  /-- Whether the server's name is sent. -/
  enableSni : Bool
  /-- The application protocols that are offered. -/
  alpn : List Bytes
  /-- The largest record that is sent, with its header. -/
  maxFragmentSize : Option Nat
  server : ServerName
deriving DecidableEq

namespace SessionSetup

/-! ### Optional features -/

/-- The longest name of an application protocol. -/
def maxProtocolLength : Nat := 255

/-- The application protocols to offer: the wanted ones if there are any and all have a usable
length, else none. -/
def offeredAlpn : Option (List Bytes) → List Bytes × List LogEvent
  | none => ([], [])
  | some [] => ([], [.warning "empty ALPN protocol list; ALPN not offered" []])
  | some protocols =>
    match protocols.find? fun p => p.isEmpty || maxProtocolLength < p.length with
    | none => (protocols, [])
    | some bad =>
      ([], [.failure
        "failed to configure ALPN protocol: each entry must be 1..=255 bytes; ALPN not offered"
        [("len", toString bad.length)]])

/-- The smallest record size that can be set. -/
def minRecordSize : Nat := 32

/-- The largest record size that can be set. -/
def maxRecordSize : Nat := 16389

/-- The record size to use: the wanted one if it is in range, else none. -/
def usableFragmentSize : Option Nat → Option Nat × List LogEvent
  | none => (none, [])
  | some n =>
    if minRecordSize ≤ n ∧ n ≤ maxRecordSize then (some n, [])
    else (none, [.failure
      "failed to configure maximum fragment length extension; using the default"
      [("size", toString n)]])

/-! ### Stages -/

/-- The provider has to be usable. -/
def checkProvider (p : Provider) : Logged Unit :=
  match p.checkUsable with
  | .ok () => .of ()
  | .error e =>
    ⟨.error (.internal ("failed to set default TLS configuration: " ++ e.message)),
      [.failure "failed to set default TLS configuration" [("error", e.message)]]⟩

/-- How strict the verifier has to be, with a warning where it is not strict. -/
def strictnessOf (c : Credentials) (host : String) : Strictness × List LogEvent :=
  match c.verifyMode with
  | .none =>
    (.anything, [.warning
      "server certificate verification is DISABLED; the connection is open to man-in-the-middle attacks"
      [("host", host)]])
  | .required =>
    if c.acceptInvalidHostnames then
      (.anyName, [.warning
        "server hostname verification is DISABLED; any certificate from the root CA is accepted"
        [("host", host)]])
    else (.strict, [])

/-- The signer of an identity: the key can be opened and belongs to the first certificate. -/
def signerOf (i : Credentials.ClientIdentity) : Except TlsError ClientSigner :=
  match SigningKey.ofPrivateKey? i.key with
  | none => .error (.general "failed to parse private key as RSA, ECDSA, or EdDSA")
  | some key =>
    match X509.Certificate.read .refuse (i.chain.headD []) with
    | .error e => .error (.invalidCertificate e)
    | .ok c => if c.publicKey = key.publicKeyInfo then .ok ⟨i.chain, key⟩ else .error .keyMismatch

/-- Which credential a refused identity is put down to. -/
def refusal (e : TlsError) : CredentialError :=
  match e with
  | .invalidCertificate _ => .clientCertificate e.message
  | _ => .privateKey e.message

/-- The signer of an identity, where there is one. -/
def clientOf : Option Credentials.ClientIdentity → Logged (Option ClientSigner)
  | none => .of none
  | some i =>
    match signerOf i with
    | .ok signer => .of (some signer)
    | .error e =>
      ⟨.error (.invalidCredentials (refusal e)),
        [.failure "client certificate and key rejected" [("error", e.message)]]⟩

/-- **Puts a session's setup together.** -/
def configure (provider : Provider) (host : String) (c : Credentials) (config : TransportConfig) :
    Logged SessionSetup := do
  checkProvider provider
  let loaded ← (⟨c.load.1, c.load.2⟩ : Logged Credentials.Loaded)
  let (strictness, warnings) := strictnessOf c host
  ⟨.ok (), warnings⟩
  let client ← clientOf loaded.identity
  let (protocols, alpnEvents) := offeredAlpn c.alpnProtocols
  ⟨.ok (), alpnEvents⟩
  let (size, sizeEvents) := usableFragmentSize config.maxFragmentSize
  ⟨.ok (), sizeEvents⟩
  let server ← Logged.ofExcept (ServerName.ofHost host)
  return {
    provider
    verifier := ⟨strictness, loaded.roots, (config.profile.restrict provider).signatures⟩
    client
    enableSni := !c.disableSni
    alpn := protocols
    maxFragmentSize := size
    server }

end SessionSetup

end SecureStream
