import SecureStream.Loopback.Client.Basic

/-! # The server's hello

The server's hello selects the version, the suite and, in version 1.3, the share of the key
exchange, all out of what the client has offered. `Client.onServerHello` accepts it or gives up;
a wish for another hello is never accepted (`Client.onRetryRequest`). -/

namespace SecureStream.Loopback.Client

open Tls (Version Extension ServerHello RetryRequest KeyGroup)

/-! ### Both versions -/

/-- The version that a hello selects. -/
def versionOf (h : ServerHello) : Except Refusal Version :=
  let selected := Extension.selectedVersionOf? h.extensions
  let code := if h.version = 0x0303 then selected.getD h.version else h.version
  if code = 0x0304 then .ok .v13
  else if code ≠ 0x0303 then
    .error ⟨.protocolVersion, .peerIncompatible "ServerDoesNotSupportTls12Or13"⟩
  else if selected.isSome then
    .error (misbehaved .illegalParameter "SelectedTls12UsingTls13VersionExtension")
  else .ok .v12

/-- Whether every extension answers one of the client's. One answers the sign among the suites. -/
def isSolicited (c : Client) (h : ServerHello) : Bool :=
  h.extensions.all fun x =>
    x.type == Extension.renegotiationType || Extension.has x.type (helloExtensions c.setup)

/-- The application protocol that a hello of version 1.2 selects. -/
def protocolOf? (h : ServerHello) : Option Bytes := (Extension.alpnOf? h.extensions).bind List.head?

/-- The version and the suite of a hello, out of what the client has offered. -/
def selection (c : Client) (h : ServerHello) : Except Refusal (Version × Tls.Suite) := do
  let version ← versionOf h
  if h.compression ≠ 0 then throw (misbehaved .illegalParameter "SelectedUnofferedCompression")
  if !c.isSolicited h then
    throw (misbehaved .unsupportedExtension "UnsolicitedServerHelloExtension")
  if version = .v12 ∧ (protocolOf? h).any (!c.setup.alpn.contains ·) then
    throw (misbehaved .illegalParameter "SelectedUnofferedApplicationProtocol")
  if !Extension.pointFormatsFit h.extensions then
    throw (misbehaved .handshakeFailure "ServerHelloMustOfferUncompressedEcPoints")
  match c.setup.provider.suites.find? fun s => s.code == h.suite with
  | none => throw (misbehaved .handshakeFailure "SelectedUnofferedCipherSuite")
  | some suite =>
    if suite.version = version then return (version, suite)
    else throw (misbehaved .illegalParameter "SelectedUnusableCipherSuiteForVersion")

/-! ### Version 1.3 -/

/-- The extensions of a hello of version 1.3; all others come later, in marked records. -/
def openTypes : List Nat :=
  [Extension.keyShareType, Extension.preSharedKeyType, Extension.supportedVersionsType]

/-- A hello of version 1.3 brings a share in a group of which the client has shown one. -/
def checkShare (h : ServerHello) : Except Refusal Unit :=
  if h.extensions.any (·.type ∉ openTypes) then
    .error (misbehaved .unsupportedExtension "UnexpectedCleartextExtension")
  else
    match Extension.keyShareOf? h.extensions with
    | none => .error (misbehaved .missingExtension "MissingKeyShare")
    | some (code, share) =>
      match KeyGroup.shared.find? fun g => g.code == code with
      | none => .error (misbehaved .illegalParameter "WrongGroupForKeyShare")
      | some g =>
        if g.isShare share then .ok ()
        else .error (misbehaved .illegalParameter "InvalidKeyShare")

/-- A hello of version 1.3, with which the keys change. -/
def onHello13 (h : ServerHello) (c : Client) : Client :=
  match checkShare h with
  | .error r => c.refuse r
  | .ok () =>
    c.aligned fun c =>
      let channel := c.channel.emitChange.agree
      { c with
        stage := .encryptedExtensions
        channel := (channel.readWith .server .v13 0).writeWith .client .v13 0 }

/-! ### Version 1.2 -/

/-- The end of the random octets of a server that knows version 1.3 and is made to believe that the
client does not. -/
def downgradeMark : Bytes := Bytes.ofText "DOWNGRD" ++ [1]

/-- A hello of version 1.2 does not come from a server of version 1.3. -/
def checkShort (h : ServerHello) : Except Refusal Unit :=
  if h.random.drop 24 = downgradeMark then
    .error (misbehaved .illegalParameter "AttemptedDowngradeToTls12WhenTls13IsSupported")
  else if h.sessionId = sessionId then
    .error (misbehaved .illegalParameter "ServerEchoedCompatibilitySessionId")
  else .ok ()

/-- A hello of version 1.2. -/
def onHello12 (h : ServerHello) (c : Client) : Client :=
  match checkShort h with
  | .error r => c.refuse r
  | .ok () => { c with stage := .certificate12, alpn := protocolOf? h }

/-! ### Both kinds of hello -/

/-- **The server's hello.** -/
def onServerHello (h : ServerHello) (c : Client) : Client :=
  match c.selection h with
  | .error r => c.refuse r
  | .ok (version, suite) =>
    let c := { c with
      greeting := some h
      suite := some suite
      channel := { c.channel with version := some version } }
    match version with
    | .v13 => c.onHello13 h
    | .v12 => c.onHello12 h

/-- **A wish for another hello.** It has to name a group of which the client has shown no share, or
bring a cookie; and it repeats the identifier of the session, which no one knows but a server that
never has such a wish. -/
def onRetryRequest (r : RetryRequest) (c : Client) : Client :=
  c.aligned fun c =>
    let group := Extension.retryGroupOf? r.extensions
    let rule :=
      if Extension.has Extension.cookieType r.extensions then
        "IllegalHelloRetryRequestWithWrongSessionId"
      else if group.isNone then "IllegalHelloRetryRequestWithNoChanges"
      else if group.any fun code => KeyGroup.shared.any (·.code == code) then
        "IllegalHelloRetryRequestWithOfferedGroup"
      else "IllegalHelloRetryRequestWithWrongSessionId"
    c.refuse (misbehaved .illegalParameter rule)

end SecureStream.Loopback.Client
