import SecureStream.Tls.Octets

/-! # Extensions of messages

A message may carry extensions, each a type with a body.

* `encodeAll`: the octets of a list of extensions.
* `has`, `find?`, `read?`: looks one up. -/

namespace SecureStream.Tls

/-- An extension of a message. -/
structure Extension where
  type : Nat
  body : Bytes
deriving DecidableEq, Repr

namespace Extension

/-! ### Types -/

def serverNameType : Nat := 0
def statusRequestType : Nat := 5
def supportedGroupsType : Nat := 10
def pointFormatsType : Nat := 11
def signatureAlgorithmsType : Nat := 13
def alpnType : Nat := 16
def clientCertificateTypeType : Nat := 19
def serverCertificateTypeType : Nat := 20
def masterSecretType : Nat := 23
def compressionType : Nat := 27
def sessionTicketType : Nat := 35
def preSharedKeyType : Nat := 41
def earlyDataType : Nat := 42
def supportedVersionsType : Nat := 43
def cookieType : Nat := 44
def keyModesType : Nat := 45
def authoritiesType : Nat := 47
def keyShareType : Nat := 51
def transportParametersType : Nat := 57
def outerTypesType : Nat := 0xfd00
def encryptedHelloType : Nat := 0xfe0d
def renegotiationType : Nat := 0xff01

/-! ### Writing -/

/-- The octets of a list of extensions. -/
def encodeAll (l : List Extension) : Bytes :=
  sizedField 2 (l.flatMap fun x => Bytes.ofNat 2 x.type ++ sizedField 2 x.body)

/-- The name of a server. -/
def serverName (name : Bytes) : Extension :=
  ⟨serverNameType, sizedField 2 (0 :: sizedField 2 name)⟩

/-- Application protocols. -/
def alpn (protocols : List Bytes) : Extension :=
  ⟨alpnType, sizedField 2 (protocols.flatMap (sizedField 1))⟩

/-- Signature schemes. -/
def signatureAlgorithms (codes : List Nat) : Extension :=
  ⟨signatureAlgorithmsType, sizedField 2 (codes.flatMap (Bytes.ofNat 2))⟩

/-- Groups for the key exchange. -/
def supportedGroups (codes : List Nat) : Extension :=
  ⟨supportedGroupsType, sizedField 2 (codes.flatMap (Bytes.ofNat 2))⟩

/-- The versions that a client supports. -/
def supportedVersions (versions : List Nat) : Extension :=
  ⟨supportedVersionsType, sizedField 1 (versions.flatMap (Bytes.ofNat 2))⟩

/-- The version that a server selects. -/
def selectedVersion (version : Nat) : Extension := ⟨supportedVersionsType, Bytes.ofNat 2 version⟩

/-- The octets of a share in a group. -/
def shareEntry (group : Nat) (share : Bytes) : Bytes := Bytes.ofNat 2 group ++ sizedField 2 share

/-- The shares of a client. -/
def keyShares (shares : List (Nat × Bytes)) : Extension :=
  ⟨keyShareType, sizedField 2 (shares.flatMap fun (group, share) => shareEntry group share)⟩

/-- The share of a server. -/
def keyShare (group : Nat) (share : Bytes) : Extension := ⟨keyShareType, shareEntry group share⟩

/-- The formats of points that are understood: with both coordinates. -/
def pointFormats : Extension := ⟨pointFormatsType, [1, 0]⟩

/-- The names of the authorities that a client may be certified by. -/
def authorities (names : List Bytes) : Extension :=
  ⟨authoritiesType, sizedField 2 (names.flatMap (sizedField 2))⟩

/-! ### Looking up -/

/-- The body of the first extension of a type. -/
def find? (type : Nat) (l : List Extension) : Option Bytes :=
  (l.find? fun x => x.type == type).map Extension.body

/-- Whether there is an extension of a type. -/
def has (type : Nat) (l : List Extension) : Bool := l.any (·.type == type)

/-- What a reader makes of the extension of a type. -/
def read? {α : Type} (type : Nat) (r : FieldReader α) (l : List Extension) : Option α :=
  (find? type l).bind fun b => (r.run b).toOption

/-- The name of the server in a client's extensions. -/
def serverNameOf? (l : List Extension) : Option Bytes :=
  (find? serverNameType l).map fun b => b.drop 5

/-- The application protocols in a list of extensions. -/
def alpnOf? (l : List Extension) : Option (List Bytes) :=
  read? alpnType (.list 2 (.sized 1)) l

/-- The signature schemes in a list of extensions. -/
def signatureAlgorithmsOf (l : List Extension) : List Nat :=
  (read? signatureAlgorithmsType (.list 2 (.number 2 "SignatureScheme")) l).getD []

/-- The versions in a client's extensions. -/
def supportedVersionsOf (l : List Extension) : List Nat :=
  (read? supportedVersionsType (.list 1 (.number 2 "ProtocolVersion")) l).getD []

/-- The version in a server's extensions. -/
def selectedVersionOf? (l : List Extension) : Option Nat :=
  read? supportedVersionsType (.number 2 "ProtocolVersion") l

/-- The share in a server's extensions. -/
def keyShareOf? (l : List Extension) : Option (Nat × Bytes) :=
  read? keyShareType (do
    let group ← .number 2 "NamedGroup"
    return (group, ← .sized 2)) l

/-- The group that a server asks for. -/
def retryGroupOf? (l : List Extension) : Option Nat :=
  read? keyShareType (.number 2 "NamedGroup") l

/-- Whether points with both coordinates are among the formats in a server's extensions, where it
names any. -/
def pointFormatsFit (l : List Extension) : Bool :=
  (read? pointFormatsType (.sized 1) l).all fun b => (0 : UInt8) ∈ b

end Extension

end SecureStream.Tls
