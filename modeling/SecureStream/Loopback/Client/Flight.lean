import SecureStream.Loopback.Client.Greeting

/-! # The client's answer to the server's flight

Behind its hello the server shows its certificates and proves that it holds their key; it may ask
for the client's. The client judges what it was shown and answers. In version 1.2 the server signs its
share of the key exchange, and the client answers with a share of its own.

* `onFinished13`, `onHelloDone`: the end of the server's flight in the two versions.
* `onRequest`, `onKeyUpdate`: what the server asks for. -/

namespace SecureStream.Loopback.Client

open Tls (Alert Message Extension KeyGroup ServerKeyExchange)

/-! ### Judging the server -/

/-- Judges the server's certificates. -/
def judged (c : Client) (now : Nat) (next : Client → Client) : Client :=
  match c.peerChain with
  | [] => c.failSilently .noCertificatesPresented
  | endEntity :: intermediates =>
    match c.setup.verifier.judge ⟨endEntity, intermediates, c.setup.server, now⟩ with
    | .error e => c.fail e.alert (.invalidCertificate e)
    | .ok () => next c

/-- The octets of a signature that is looked at as a mark, at least. -/
def minSignature : Nat := 16

/-- Whether a signature is a mark by the key of a certificate. -/
def isMarked (certificate message signature : Bytes) : Bool :=
  match X509.Certificate.read .refuse certificate with
  | .error _ => false
  | .ok k =>
    minSignature ≤ signature.length && signature == standIn k.publicKey message signature.length

/-- Judges the signature of the server's share. -/
def judgeShare (c : Client) (certificate message : Bytes) (x : ServerKeyExchange) :
    Except TlsError Unit :=
  if isMarked certificate message x.signature then .ok ()
  else c.setup.verifier.judgeSignature certificate x.scheme message x.signature

/-- The alert that goes with a refused signature. -/
def signatureAlert : TlsError → Alert
  | .invalidCertificate e => e.alert
  | _ => .illegalParameter

/-- Whether the scheme of the server's share goes with the suite. -/
def fitsSuite (c : Client) (x : ServerKeyExchange) : Bool :=
  c.suite.any fun s => s.signer.any fun family => x.scheme ∈ family.codes

/-- Judges the server's share and its signature, which covers the random octets of both sides. -/
def signed (c : Client) (next : ServerKeyExchange → Client → Client) : Client :=
  match c.greeting, c.exchange, c.peerChain with
  | some h, some x, certificate :: _ =>
    if !c.fitsSuite x then c.refuse (misbehaved .illegalParameter "SignedKxWithWrongAlgorithm")
    else
      match c.judgeShare certificate (clientRandom ++ h.random ++ x.params) x with
      | .error e => c.fail (signatureAlert e) e
      | .ok () => next x c
  | _, _, _ => c.failSilently .handshakeNotComplete

/-! ### The client's own certificates -/

/-- The client's certificates and the scheme to sign with, where the server wants them and the
client has them. -/
def identity? (c : Client) : Option (ClientSigner × Signature.Scheme) := do
  let signer ← c.setup.client
  let schemes ← c.requested
  let scheme ← signer.key.schemes.find? fun s => s.code ∈ schemes
  return (signer, scheme)

/-- The client's certificates, as the answer to a request. -/
def certificateMessages (version13 : Bool) (c : Client) : List Message :=
  if c.requested.isNone then []
  else [.certificate version13 ((c.identity?.map fun x => x.1.chain).getD [])]

/-- The proof that the client holds the key of its certificate. -/
def proofMessages (c : Client) : List Message :=
  match c.identity? with
  | some (signer, scheme) => [.certificateVerify scheme.code (filler signer.key.signatureSize)]
  | none => []

/-- A request for the client's certificates. -/
def onRequest (version13 : Bool) (r : Tls.CertificateRequest) (c : Client) : Client :=
  { c with
    requested := some r.schemes
    stage := if version13 then .certificate13 else .done }

/-! ### Version 1.3 -/

/-- The end of the server's messages in version 1.3: the client answers, and both sides go over to
the keys for plaintext. -/
def onFinished13 (c : Client) : Client :=
  c.aligned fun c =>
    let answer := c.certificateMessages true ++ c.proofMessages ++ [.finished (filler 48)]
    let channel := c.channel.agree.emitMessages answer
    { c with
      stage := .traffic13
      channel := (channel.readWith .server .v13 1).writeWith .client .v13 1 }

/-- A change of the server's keys; the server may want the client to change its own. -/
def onKeyUpdate (request : Nat) (c : Client) : Client :=
  c.aligned fun c =>
    if c.updates = 0 then c.failSilently (.peerMisbehaved "TooManyKeyUpdateRequests")
    else if 1 < request then c.fail .illegalParameter (.invalidMessage (.named "InvalidKeyUpdate"))
    else
      let channel := c.channel
      let channel :=
        if request = 1 ∧ channel.update.isNone then
          let (r, writing) := channel.writing.write .handshake (Message.keyUpdate 0).encode
          { channel with update := some r.encode, writing := writing.rekeyed }
        else channel
      { c with
        updates := c.updates - 1
        channel := { channel with reading := channel.reading.rekeyed } }

/-! ### Version 1.2 -/

/-- The server's certificates. How they stand with their issuer may follow. -/
def onCertificate12 (chain : List Bytes) (c : Client) : Client :=
  let told := c.greeting.any fun h => Extension.has Extension.statusRequestType h.extensions
  { c with peerChain := chain, stage := if told then .statusOrExchange else .serverKeyExchange }

/-- The server's share of the key exchange. -/
def onKeyExchange (b : Bytes) (c : Client) : Client :=
  match ServerKeyExchange.read? b with
  | none => c.fail .decodeError (.invalidMessage (.named "MissingKeyExchange"))
  | some x => { c with stage := .requestOrDone, exchange := some x }

/-- Writes messages as records of their own. -/
def emitEach (l : List Message) (c : Client) : Client :=
  { c with channel := l.foldl (fun channel m => channel.emitMessages [m]) c.channel }

/-- What the client waits for behind its answer: a ticket where the server promised one. -/
def stageBehind (c : Client) : ClientStage :=
  if c.greeting.any fun h => Extension.has Extension.sessionTicketType h.extensions then .newTicket
  else .change

/-- The client's share in a group, and the keys that follow from it. -/
def exchangeKeys (g : KeyGroup) (x : ServerKeyExchange) (c : Client) : Client :=
  let c := c.emitEach [.clientKeyExchange (ServerKeyExchange.clientBody (filler g.clientSize))]
  let c := { c with channel := c.channel.agree }.emitEach c.proofMessages
  if !g.isShare x.share then c.refuse (misbehaved .illegalParameter "InvalidKeyShare")
  else
    let channel := c.channel.emitChange.writeWith .client .v12 0
    { c with stage := c.stageBehind, channel }.emitEach [.finished (filler 12)]

/-- The end of the server's messages in version 1.2: the client answers. -/
def onHelloDone (now : Nat) (c : Client) : Client :=
  c.aligned fun c =>
    c.judged now fun c =>
      c.signed fun x c =>
        let c := c.emitEach (c.certificateMessages false)
        match KeyGroup.ofVersion12.find? fun g => g.code == x.group with
        | none => c.refuse (misbehaved .illegalParameter "SelectedUnofferedKxGroup")
        | some g => c.exchangeKeys g x

end SecureStream.Loopback.Client
