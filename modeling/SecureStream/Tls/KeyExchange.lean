import SecureStream.Tls.Octets

/-! # The server's key exchange in version 1.2

The server shows its share in a group that it names, and signs it. `ServerKeyExchange.read?` reads
the three behind one another, and `params` is the part that is signed. -/

namespace SecureStream.Tls

/-- **A share of the server with its signature.** -/
structure ServerKeyExchange where
  group : Nat
  share : Bytes
  scheme : Nat
  signature : Bytes
deriving DecidableEq, Repr

namespace ServerKeyExchange

/-- The kind of parameters that name a curve. -/
def namedCurve : Nat := 3

/-- The part that is signed. -/
def params (x : ServerKeyExchange) : Bytes :=
  Bytes.ofNat 1 namedCurve ++ Bytes.ofNat 2 x.group ++ sizedField 1 x.share

/-- The octets of a key exchange. -/
def encode (x : ServerKeyExchange) : Bytes :=
  x.params ++ Bytes.ofNat 2 x.scheme ++ sizedField 2 x.signature

/-- The fields of a key exchange. -/
def fields : FieldReader ServerKeyExchange := do
  let kind ← .number 1 "ECCurveType"
  if kind ≠ namedCurve then throw (.named "UnsupportedCurveType")
  let group ← .number 2 "NamedGroup"
  let share ← .sizedSome 1
  let scheme ← .number 2 "SignatureScheme"
  let signature ← .sized 2
  .done "ServerKeyExchangePayload"
  return ⟨group, share, scheme, signature⟩

/-- Reads a key exchange; nothing may follow it. -/
def read? (b : Bytes) : Option ServerKeyExchange := (fields.run b).toOption

/-- What a client sends of a key exchange. -/
def clientBody (share : Bytes) : Bytes := sizedField 1 share

end ServerKeyExchange

end SecureStream.Tls
