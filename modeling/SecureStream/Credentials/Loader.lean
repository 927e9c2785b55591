import SecureStream.Credentials.Bundle
import SecureStream.Credentials.PrivateKey
import SecureStream.X509.Certificate
import SecureStream.Journal

/-! # Loading credentials

A bundle is turned into trust anchors and, where both halves are there, a client identity. The root
comes first, then the client's certificates, then the key, and the first of them that fails is
reported. Certificates and keys come as PEM documents or as single binary values.

* `certificates`: the certificates of a document or a binary value.
* `privateKeyOf`: the first key of a document, or a binary key.
* `load`: the whole bundle. -/

namespace SecureStream.Credentials

open X509 (TrustAnchor Certificate)

/-! ### Certificates -/

/-- Collects the certificates among the sections of a document. Each has to be one sequence;
`count` of them came before. -/
def collect : (count : Nat) → List Pem.Section → Except String (List Bytes)
  | _, [] => .ok []
  | count, s :: rest =>
    if s.label = .certificate then
      if Der.isSequence s.content then (collect (count + 1) rest).map (s.content :: ·)
      else .error ("certificate #" ++ toString count ++ " is not a DER sequence")
    else collect count rest

/-- **The certificates of a document or a binary value**, or what is wrong with it. -/
def certificates (b : Bytes) : Except String (List Bytes) :=
  if Pem.isDocument b then do
    let document := Pem.read b
    let found ← collect 0 document.sections
    match document.defect with
    | some defect => .error ("malformed PEM: " ++ defect.message)
    | none => if found.isEmpty then .error "no certificates found" else .ok found
  else if Der.isSequence b then .ok [b]
  else .error "not a PEM document or DER certificate"

/-- The trust anchors of certificates, `index` of which came before. -/
def anchors : (index : Nat) → List Bytes → Except String (List TrustAnchor)
  | _, [] => .ok []
  | index, b :: rest =>
    match TrustAnchor.ofBytes b with
    | .ok anchor => (anchors (index + 1) rest).map (anchor :: ·)
    | .error e =>
      .error ("certificate #" ++ toString index ++ " rejected: " ++
        (TlsError.invalidCertificate e).message)

/-- The trust anchors of a root. -/
def roots (b : Bytes) : Except CredentialError (List TrustAnchor) :=
  ((certificates b).bind (anchors 0)).mapError .rootCa

/-- Checks that every element of a client chain is a certificate. -/
def checkChain : (index : Nat) → List Bytes → Except String Unit
  | _, [] => .ok ()
  | index, b :: rest =>
    match Certificate.read .refuse b with
    | .ok _ => checkChain (index + 1) rest
    | .error e =>
      .error ("certificate #" ++ toString index ++ ": " ++
        (TlsError.invalidCertificate e).message)

/-- The chain of a client. -/
def clientChain (b : Bytes) : Except CredentialError (List Bytes) :=
  ((certificates b).bind fun chain => (checkChain 0 chain).map fun _ => chain).mapError
    .clientCertificate

/-! ### Private keys -/

/-- What marks a document that holds an encrypted key. -/
def encryptionMarkers : List Bytes :=
  [Bytes.ofText "ENCRYPTED PRIVATE KEY", Bytes.ofText "Proc-Type: 4,ENCRYPTED"]

/-- The first key of a document, or why there is none. -/
def firstKey (document : Pem.Document) : Except String PrivateKey :=
  match document.sections.findSome? PrivateKey.ofSection? with
  | some key => .ok key
  | none =>
    match document.defect with
    | some defect => .error ("malformed PEM: " ++ defect.message)
    | none => .error "no private key found"

/-- **The private key of a document or a binary value.** An encrypted key is refused, with a hint
for those who supplied a password. -/
def privateKeyOf (b : Bytes) (passwordSupplied : Bool) : Except CredentialError PrivateKey :=
  Except.mapError .privateKey <|
    if Pem.isDocument b then
      if encryptionMarkers.any fun m => Bytes.contains m b then
        .error (if passwordSupplied then
            "encrypted private keys are not supported; decrypt the key before loading it"
          else "private key is encrypted and no decryption is available")
      else firstKey (Pem.read b)
    else match PrivateKey.ofDer? b with
      | some key => .ok key
      | none => .error "unknown or invalid key format"

/-! ### Bundles -/

/-- **A client's certificates, the end entity's first, and the key.** -/
structure ClientIdentity where
  chain : List Bytes
  key : PrivateKey
deriving DecidableEq, Repr

/-- A listing of an identity, without the key. -/
def ClientIdentity.inspect (i : ClientIdentity) : String :=
  Tls.CertificateError.listing "ClientIdentity"
    [("chain", toString i.chain.length), ("key", "\"<redacted>\"")]

/-- Credentials in the form that a session needs. -/
structure Loaded where
  roots : List TrustAnchor
  identity : Option ClientIdentity
deriving DecidableEq, Repr

/-- Logs a credential that could not be used. -/
def logged {α : Type} (message : String) (r : Except CredentialError α) :
    Except TransportError α × List LogEvent :=
  match r with
  | .ok a => (.ok a, [])
  | .error e =>
    let e := TransportError.invalidCredentials e
    (.error e, [.failure message [("error", e.message)]])

/-- The identity of a client: none unless both halves are there, and a warning for one half. -/
def loadIdentity (c : Credentials) :
    Except TransportError (Option ClientIdentity) × List LogEvent :=
  match c.clientCert, c.privateKey with
  | some cert, some key =>
    match logged "failed to parse the client certificate" (clientChain cert) with
    | (.error e, logs) => (.error e, logs)
    | (.ok chain, logs) =>
      let (key, more) :=
        logged "failed to parse the client key" (privateKeyOf key c.privateKeyPassword.isSome)
      (key.map fun key => some ⟨chain, key⟩, logs ++ more)
  | some _, none =>
    (.ok none, [.warning "client certificate supplied without a private key; mutual authentication not configured" []])
  | none, some _ =>
    (.ok none, [.warning "private key supplied without a client certificate; mutual authentication not configured" []])
  | none, none => (.ok none, [])

/-- The root, which must not be missing or empty. -/
def rootBytes (c : Credentials) : Except TransportError Bytes :=
  match c.rootCa with
  | some (b :: rest) => .ok (b :: rest)
  | _ => .error (.invalidParameter "root CA cannot be empty")

/-- **Loads a bundle**: what it comes to, and what is logged on the way. -/
def load (c : Credentials) : Except TransportError Loaded × List LogEvent :=
  match c.rootBytes with
  | .error e => (.error e, [])
  | .ok b =>
    match logged "failed to parse server root CA certificate" (Credentials.roots b) with
    | (.error e, logs) => (.error e, logs)
    | (.ok anchors, logs) =>
      let (identity, more) := c.loadIdentity
      (identity.map fun i => ⟨anchors, i⟩, logs ++ more)

end SecureStream.Credentials
