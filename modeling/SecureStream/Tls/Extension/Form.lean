import SecureStream.Tls.Extension

/-! # The forms of extensions

Which extensions a message may carry, and what form the body of each has, depends on the message. No
type may occur twice.

* `readClient`, `readServer`, `readRetry`: the extensions of the three kinds of hello.
* `readRequest`: those of a request for certificates. -/

namespace SecureStream.Tls.Extension

/-- What a kind of message makes of extensions. -/
structure Kind where
  /-- The name by which a body with something left of it is reported. -/
  owner : String
  /-- Reads the body of a type. -/
  form : Nat → FieldReader Unit
  /-- The type that nothing may follow. -/
  final : Option Nat

/-! ### Reading -/

/-- Reads an extension. Nothing may be left of its body. -/
def readOne (k : Kind) (seen : List Extension) : FieldReader Extension := do
  let type ← .number 2 "ExtensionType"
  let body ← .sized 2
  if seen.any (·.type == type) then throw (.duplicateExtension type)
  FieldReader.within (k.form type *> .done k.owner) body
  return ⟨type, body⟩

/-- Nothing may follow a type that comes last. -/
def checkFinal (k : Kind) (type : Nat) : FieldReader Unit := fun b =>
  if k.final = some type ∧ !b.isEmpty then .error (.named "PreSharedKeyIsNotFinalExtension")
  else .ok ((), b)

/-- Reads extensions up to the end. -/
def readEach (k : Kind) : (limit : Nat) → (seen : List Extension) → FieldReader (List Extension)
  | 0, seen => pure seen
  | limit + 1, seen => fun b =>
    if b.isEmpty then .ok (seen, [])
    else ((do
      let x ← readOne k seen
      checkFinal k x.type
      readEach k limit (seen ++ [x])) : FieldReader (List Extension)) b

/-- **Reads the extensions of a kind of message.** -/
def readAll (k : Kind) : FieldReader (List Extension) := do
  let b ← .sized 2
  FieldReader.within (readEach k b.length []) b

/-! ### Bodies -/

/-- What is read for its form only. -/
def formOf {α : Type} (r : FieldReader α) : FieldReader Unit := (fun _ => ()) <$> r

/-- Any body. -/
def anyForm : FieldReader Unit := formOf FieldReader.rest

/-- A body without octets. -/
def emptyForm : FieldReader Unit := .done "Empty"

/-- Entries of a list that may be empty. -/
def listForm {α : Type} (r : FieldReader α) : FieldReader Unit := formOf (FieldReader.list 2 r)

/-- Entries of a list that has some, behind the octets of all of them. -/
def someForm {α : Type} (width : Nat) (name : String) (r : FieldReader α) : FieldReader Unit :=
  formOf (FieldReader.listSome width (.illegalEmptyList name) r)

/-- A list with a single application protocol. -/
def protocolForm : FieldReader Unit := do
  let b ← .sized 2
  FieldReader.within (formOf (.sizedSome 1) *> .done "SingleProtocolName") b

/-- A share of a key exchange. -/
def shareForm : FieldReader Unit := formOf (.number 2 "NamedGroup") *> formOf (.sizedSome 2)

/-- The formats of points. -/
def pointFormatsForm : FieldReader Unit := someForm 1 "ECPointFormats" (.number 1 "ECPointFormat")

/-- Types of certificates, one or a list of them. -/
def certificateType : FieldReader Nat := .number 1 "CertificateType"

/-- The schemes of a signature. -/
def schemesForm : FieldReader Unit :=
  formOf (.listSome 2 (.named "NoSignatureSchemes") (.number 2 "SignatureScheme"))

/-- The names of authorities. -/
def authoritiesForm : FieldReader Unit := listForm (.sizedSome 2)

/-! ### Hidden hellos -/

/-- A pair of algorithms to hide a hello with. -/
def hidingSuite : FieldReader Unit := formOf (.number 2 "HpkeKdf") *> formOf (.number 2 "HpkeAead")

/-- The name of a server in public. -/
def publicName : FieldReader Unit := do
  let b ← .sized 1
  if (Bytes.toText? b).any fun s => Name.Dns.isName s.toList then return
  throw (.named "InvalidServerName")

/-- An extension of a key. -/
def keyExtension : FieldReader Unit := formOf (.number 2 "ExtensionType") *> formOf (.sized 2)

/-- A key to hide a hello with, and how to use it. -/
def hidingKey : FieldReader Unit :=
  formOf (.number 1 "u8") *> formOf (.number 2 "HpkeKem") *> formOf (.sizedSome 2) *>
    someForm 2 "HpkeSymmetricCipherSuites" hidingSuite *> formOf (.number 1 "u8") *>
    publicName *> listForm keyExtension

/-- The version of keys that are understood. -/
def hidingVersion : Nat := 0xfe0d

/-- A key of some version. -/
def hidingEntry : FieldReader Unit := do
  let version ← .number 2 "EchVersion"
  let b ← .sized 2
  if version = hidingVersion then FieldReader.within hidingKey b else return

/-- A hello that hides another. -/
def hiddenHello : FieldReader Unit := do
  let side ← .number 1 "EchClientHelloType"
  if side = 0 then
    hidingSuite *> formOf (.number 1 "u8") *> formOf (.sized 2) *> formOf (.sizedSome 2)
  else if side = 1 then return
  else throw .invalidContentType

/-! ### A server's hello -/

/-- The forms of what a server answers. A type that is not known may have any body. -/
def serverForm (type : Nat) : FieldReader Unit :=
  if type ∈ [serverNameType, sessionTicketType, masterSecretType, statusRequestType,
      earlyDataType] then emptyForm
  else if type = renegotiationType then formOf (.sized 1)
  else if type = alpnType then protocolForm
  else if type = keyShareType then shareForm
  else if type = preSharedKeyType then formOf (.number 2 "u16")
  else if type ∈ [clientCertificateTypeType, serverCertificateTypeType] then formOf certificateType
  else if type = supportedVersionsType then formOf (.number 2 "ProtocolVersion")
  else if type = pointFormatsType then pointFormatsForm
  else if type = encryptedHelloType then listForm hidingEntry
  else anyForm

/-- What a server answers. -/
def readServer : FieldReader (List Extension) := readAll ⟨"ServerExtensions", serverForm, none⟩

/-- The forms of what a server asks for when it wants another hello. No other type may occur. -/
def retryForm (type : Nat) : FieldReader Unit :=
  if type = keyShareType then formOf (.number 2 "NamedGroup")
  else if type = cookieType then formOf (.sizedSome 2)
  else if type = supportedVersionsType then formOf (.number 2 "ProtocolVersion")
  else if type = encryptedHelloType then anyForm
  else throw (.named "UnknownHelloRetryRequestExtension")

/-- What a server asks for when it wants another hello. -/
def readRetry : FieldReader (List Extension) :=
  readAll ⟨"HelloRetryRequestExtensions", retryForm, none⟩

/-! ### A client's hello -/

/-- The names of servers that a client asks for. Of a name of an unknown type all that follows is
taken, and there is one host at most. -/
def namesForm (limit : Nat) (found : Bool) : FieldReader Unit :=
  match limit with
  | 0 => return
  | limit + 1 => fun b =>
    if b.isEmpty then .ok ((), [])
    else ((do
      let type ← .number 1 "ServerNameType"
      if type ≠ 0 then anyForm
      else
        let _ ← .sizedSome 2
        if found then throw (.named "InvalidServerName")
        namesForm limit true) : FieldReader Unit) b

/-- The list of those names. -/
def serverNamesForm : FieldReader Unit := do
  let b ← .sized 2
  FieldReader.within (namesForm b.length false) b

/-- How a client wants to learn how a certificate stands with its issuer. -/
def statusForm : FieldReader Unit := do
  let type ← .number 1 "CertificateStatusType"
  if type = 1 then listForm (.sized 2) *> formOf (.sized 2) else anyForm

/-- Keys that a client offers to use again, with a proof for each. -/
def offerForm : FieldReader Unit :=
  someForm 2 "PskIdentities" (formOf (.sizedSome 2) *> formOf (.number 4 "u32")) *>
    someForm 2 "PskBinders" (.sizedSome 1)

/-- The forms of what a client says in its hello. A type that is not known may have any body. -/
def clientForm (type : Nat) : FieldReader Unit :=
  if type ∈ [masterSecretType, earlyDataType] then emptyForm
  else if type = serverNameType then serverNamesForm
  else if type = statusRequestType then statusForm
  else if type = supportedGroupsType then someForm 2 "NamedGroups" (.number 2 "NamedGroup")
  else if type = pointFormatsType then pointFormatsForm
  else if type = signatureAlgorithmsType then schemesForm
  else if type = alpnType then someForm 2 "ProtocolNames" (.sizedSome 1)
  else if type ∈ [clientCertificateTypeType, serverCertificateTypeType] then
    someForm 1 "CertificateTypes" certificateType
  else if type = compressionType then
    someForm 1 "CertificateCompressionAlgorithms" (.number 2 "CertificateCompressionAlgorithm")
  else if type = preSharedKeyType then offerForm
  else if type = supportedVersionsType then
    someForm 1 "ProtocolVersions" (.number 2 "ProtocolVersion")
  else if type = cookieType then formOf (.sizedSome 2)
  else if type = keyModesType then someForm 1 "PskKeyExchangeModes" (.number 1 "PskKeyExchangeMode")
  else if type = authoritiesType then authoritiesForm
  else if type = keyShareType then listForm shareForm
  else if type = renegotiationType then formOf (.sized 1)
  else if type = encryptedHelloType then hiddenHello
  else if type = outerTypesType then someForm 1 "ExtensionTypes" (.number 2 "ExtensionType")
  else anyForm

/-- What a client says in its hello. -/
def readClient : FieldReader (List Extension) :=
  readAll ⟨"ClientExtensions", clientForm, some preSharedKeyType⟩

/-! ### A request for certificates -/

/-- The forms of what a server says when it asks for the client's certificates. -/
def requestForm (type : Nat) : FieldReader Unit :=
  if type = signatureAlgorithmsType then schemesForm
  else if type = authoritiesType then authoritiesForm
  else anyForm

/-- What a server says when it asks for the client's certificates. -/
def readRequest : FieldReader (List Extension) :=
  readAll ⟨"CertificateRequestExtensions", requestForm, none⟩

end SecureStream.Tls.Extension
