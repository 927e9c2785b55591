import SecureStream.TransportError
import SecureStream.Bytes

/-! # Credentials

What a caller hands to a connect: the trusted root, perhaps a client certificate with its key, and
the wishes for the session. Nothing is checked here. `Credentials.build` applies settings in order,
some of which read a file. -/

namespace SecureStream

/-- **A bundle of credentials.** -/
structure Credentials where
  rootCa : Option Bytes
  clientCert : Option Bytes
  privateKey : Option Bytes
  privateKeyPassword : Option Bytes
  disableSni : Bool
  alpnProtocols : Option (List Bytes)
  acceptInvalidCerts : Bool
  acceptInvalidHostnames : Bool
deriving DecidableEq, Repr

/-- How the server's certificate is judged. -/
inductive VerifyMode
  /-- It has to lead to the root and to match the host. -/
  | required
  /-- It is not judged. -/
  | none
deriving DecidableEq, Repr

/-- The name of a mode. -/
def VerifyMode.name : VerifyMode → String
  | required => "Required"
  | none => "None"

namespace Credentials

/-- Nothing is set. -/
def empty : Credentials := ⟨none, none, none, none, false, none, false, false⟩

/-- Whether both halves of a client identity are there. -/
def hasClientIdentity (c : Credentials) : Bool := c.clientCert.isSome && c.privateKey.isSome

/-- The mode that a bundle asks for. -/
def verifyMode (c : Credentials) : VerifyMode := if c.acceptInvalidCerts then .none else .required

/-- An optional part in a listing. -/
def inspectPart : Option String → String
  | none => "None"
  | some text => "Some(" ++ text ++ ")"

/-- **A listing of a bundle.** Of the certificates it tells the size, of the secrets only that they
are there. -/
def inspect (c : Credentials) : String :=
  let size (b : Option Bytes) := inspectPart (b.map fun b => toString b.length)
  let secret (b : Option Bytes) := inspectPart (b.map fun _ => "\"<redacted>\"")
  Tls.CertificateError.listing "NetworkCredentials"
    [("root_ca", size c.rootCa),
      ("client_cert", size c.clientCert),
      ("private_key", secret c.privateKey),
      ("private_key_password", secret c.privateKeyPassword),
      ("disable_sni", toString c.disableSni),
      ("alpn_protocols", inspectPart (c.alpnProtocols.map fun p => toString p.length)),
      ("danger_accept_invalid_certs", toString c.acceptInvalidCerts),
      ("danger_accept_invalid_hostnames", toString c.acceptInvalidHostnames)]

/-! ### Settings -/

/-- A part that may be read from a file. -/
inductive FilePart
  | rootCa
  | clientCert
  | privateKey
deriving DecidableEq, Repr

/-- A part in words. -/
def FilePart.label : FilePart → String
  | rootCa => "root CA"
  | clientCert => "client certificate"
  | privateKey => "private key"

/-- A file as it is found: its path and what reading it gives. -/
structure File where
  path : String
  content : Except IoError Bytes

/-- One setting. -/
inductive Setting
  | rootCa (b : Bytes)
  | clientCert (b : Bytes)
  | privateKey (b : Bytes)
  | privateKeyPassword (b : Bytes)
  | disableSni (on : Bool)
  | alpnProtocols (protocols : List Bytes)
  | acceptInvalidCerts (on : Bool)
  | acceptInvalidHostnames (on : Bool)
  | file (part : FilePart) (file : File)

/-- Sets a part. -/
def setPart (c : Credentials) (b : Bytes) : FilePart → Credentials
  | .rootCa => { c with rootCa := some b }
  | .clientCert => { c with clientCert := some b }
  | .privateKey => { c with privateKey := some b }

/-- Applies one setting, which fails if a file cannot be read. -/
def set (c : Credentials) : Setting → Except TransportError Credentials
  | .rootCa b => .ok (c.setPart b .rootCa)
  | .clientCert b => .ok (c.setPart b .clientCert)
  | .privateKey b => .ok (c.setPart b .privateKey)
  | .privateKeyPassword b => .ok { c with privateKeyPassword := some b }
  | .disableSni on => .ok { c with disableSni := on }
  | .alpnProtocols protocols => .ok { c with alpnProtocols := some protocols }
  | .acceptInvalidCerts on => .ok { c with acceptInvalidCerts := on }
  | .acceptInvalidHostnames on => .ok { c with acceptInvalidHostnames := on }
  | .file part f =>
    match f.content with
    | .ok b => .ok (c.setPart b part)
    | .error e =>
      .error (.invalidParameter
        ("failed to read " ++ part.label ++ " file '" ++ f.path ++ "': " ++ e.message))

/-- **The empty bundle with settings applied in order**, up to the first that fails. -/
def build (settings : List Setting) : Except TransportError Credentials :=
  settings.foldlM set empty

end Credentials

/-! ### Files -/

/-- What a path can lead to. -/
inductive FileNode
  | directory
  | file (content : Except IoError Bytes)

/-- The longest path, in octets, with the octet that ends it. -/
def maxPath : Nat := 4096

/-- The longest name in a path, in octets. -/
def maxName : Nat := 255

/-- The directories that every system has, each as the names that lead to it, and the directory
that relative paths start from. -/
def wellKnownDirectories : List (List String) :=
  [[], ["bin"], ["dev"], ["etc"], ["home"], ["lib"], ["proc"], ["root"], ["sbin"], ["sys"], ["tmp"],
    ["usr"], ["usr", "bin"], ["usr", "lib"], ["usr", "share"], ["var"], ["var", "tmp"],
    ["dev", "shm"], ["proc", "self"], workingDirectory]
where
  /-- The directory that relative paths start from. -/
  workingDirectory : List String := ["srv"]

/-- The devices that every system has. The one is empty, the others have no end. -/
def wellKnownDevices : List (List String × FileNode) :=
  (["dev", "null"], .file (.ok [])) ::
    ["full", "random", "urandom", "zero"].map fun name =>
      (["dev", name], .file (.error (.system 12)))

/-- What the names lead to, in a system that holds nothing else. -/
def bareNode? (names : List String) : Option FileNode :=
  if wellKnownDirectories.contains names then some .directory
  else (wellKnownDevices.find? fun d => d.1 == names).map Prod.snd

/-- **Follows names from a place that is known.** Only a directory can be passed through, also by
a name that leads back to it. -/
def follow (place : List String) (node : FileNode) : List String → Except IoError FileNode
  | [] => .ok node
  | name :: rest =>
    match node with
    | .file _ => .error (.system 20)
    | .directory =>
      if name.isEmpty ∨ name = "." then follow place node rest
      else if name = ".." then follow place.dropLast .directory rest
      else if maxName < name.utf8ByteSize then .error (.system 36)
      else match bareNode? (place ++ [name]) with
        | none => .error (.system 2)
        | some node => follow (place ++ [name]) node rest

/-- **A file system that holds nothing but the well-known directories and devices.** -/
def bareFileSystem (path : String) : Except IoError Bytes :=
  if path.toList.any fun c => c.toNat = 0 then
    .error (.described .invalidInput "file name contained an unexpected NUL byte")
  else if path.isEmpty then .error (.system 2)
  else if maxPath ≤ path.utf8ByteSize then .error (.system 36)
  else
    let start := if path.startsWith "/" then [] else wellKnownDirectories.workingDirectory
    match follow start .directory (path.splitOn "/") with
    | .error e => .error e
    | .ok .directory => .error (.system 21)
    | .ok (.file content) => content

end SecureStream
