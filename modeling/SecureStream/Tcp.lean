import SecureStream.Bytes
import SecureStream.Journal
import SecureStream.Tcp.Resolver

/-! # Sockets of the operating system

A blocking socket that connects by name: the addresses of the host are tried in turn, those of the
socket's own family only. What a host's network does is a parameter; `isolated` is a host that has
none.

* `Socket.connect`: connects by name.
* `Socket.renew`: a fresh socket with the same settings. -/

namespace SecureStream.Tcp

open Name (Address)

/-- A socket that is not connected. -/
structure Socket where
  family : AddressFamily
  kind : SocketKind
  recvTimeout : Option Duration
  sendTimeout : Option Duration
  /-- Whether it has a port of its own. -/
  isBound : Bool
  /-- The number of the link that it is tied to, zero if it is tied to none. -/
  link : Nat
deriving DecidableEq

/-- **The network that a host is on**: how it resolves names and where connections lead. A failure
leaves a socket behind too. -/
structure Network where
  resolve : String → Except IoError (List Endpoint)
  connect : Endpoint → Socket → Except IoError Unit × Socket

/-- Opens a socket. A stream goes with TCP and datagrams go with UDP. -/
def socket (family : AddressFamily) (kind : SocketKind) (protocol : SocketProtocol) :
    Except IoError Socket :=
  match kind, protocol with
  | .stream, .tcp | .datagram, .udp => .ok ⟨family, kind, none, none, false, 0⟩
  | _, _ => .error (.system 93)

namespace Socket

/-- Applies a setting. -/
def setOption (s : Socket) : SocketOption → Socket
  | .recvTimeout limit => { s with recvTimeout := limit }
  | .sendTimeout limit => { s with sendTimeout := limit }

/-- A fresh socket with the same settings. -/
def renew (s : Socket) : Socket := { s with isBound := false, link := 0 }

/-! ### Connecting -/

/-- Whether an address is of the socket's family. -/
def isNative (s : Socket) : Address → Bool
  | .v4 .. => s.family == .ipv4
  | .v6 _ => s.family == .ipv6

/-- Tries endpoints in turn up to the first that answers, with a fresh socket after a failure. The
last failure is reported. -/
def tryAll (n : Network) (failure : Option IoError) (otherwise : IoError) :
    List Endpoint → Socket → Except IoError Unit × Socket
  | [], s => (.error (failure.getD otherwise), s)
  | e :: rest, s =>
    match n.connect e (if failure.isSome then s.renew else s) with
    | (.ok (), s) => (.ok (), s)
    | (.error x, s) => tryAll n (some x) otherwise rest s

/-- **Connects to a host by name.** -/
def connect (s : Socket) (n : Network) (host : String) : Except IoError Unit × Socket :=
  match n.resolve host with
  | .error e => (.error e, s)
  | .ok endpoints =>
    s.tryAll n none
      (.described .notFound ("no " ++ s.family.name ++ " address found for " ++ host))
      (endpoints.filter fun e => s.isNative e.address)

/-- The address that a socket without a connection has. -/
def localAddress (s : Socket) : Address :=
  match s.family with
  | .ipv4 => .v4 0 0 0 0
  | .ipv6 => .v6 [0, 0, 0, 0, 0, 0, 0, 0]

/-! ### Without a connection -/

/-- Gives a socket for datagrams a port of its own, which it needs before it does anything. -/
def bound (s : Socket) : Socket := { s with isBound := s.isBound || s.kind == .datagram }

/-- The longest datagram. -/
def maxDatagram : Nat := 65535

/-- What sending octets gives. -/
def send (b : Bytes) (s : Socket) : IoError × Socket :=
  (match s.kind with
    | .stream => .system 32
    | .datagram =>
      if s.family = .ipv4 ∧ maxDatagram < b.length then .system 90 else .system 89, s.bound)

/-- What receiving gives. -/
def recvFailure (s : Socket) : IoError :=
  match s.kind with
  | .stream => .system 107
  | .datagram => .system 11

end Socket

/-! ### A host without a network -/

/-- No network leads to an address. -/
def unreachable : IoError := .system 101

/-- The host has no address of its own to connect from. -/
def nameless : IoError := .system 99

/-- It is not known on which link an address is to be found. -/
def misplaced : IoError := .system 22

/-- Whether an address is one of many hosts. -/
def isMulticast (groups : List Nat) : Bool := groups.headD 0 / 256 == 0xff

/-- Whether an address stands for one of the other family. -/
def isMapped (groups : List Nat) : Bool := groups.take 6 == [0, 0, 0, 0, 0, 0xffff]

/-- Ties a socket to the link of an endpoint that has to be found there. -/
def tie (e : Endpoint) (s : Socket) : Except IoError Unit × Socket :=
  if !isLinkLocal e.address then (.ok (), s)
  else if e.link ≠ 0 ∧ s.link ≠ 0 ∧ s.link ≠ e.link then (.error misplaced, s)
  else
    let s := { s with link := if e.link = 0 then s.link else e.link }
    if s.link = 0 then (.error misplaced, s) else (.ok (), s)

/-- How a connection fails on a host without any network, not even to itself. -/
def connectAlone (e : Endpoint) (s : Socket) : Except IoError Unit × Socket :=
  let s := s.bound
  match e.address with
  | .v4 .. => (.error unreachable, s)
  | .v6 groups =>
    if isMapped groups || s.kind == .stream && isMulticast groups then (.error unreachable, s)
    else
      match tie e s with
      | (.error x, s) => (.error x, s)
      | (.ok (), s) => (.error nameless, s)

/-- **A host without any network**, not even to itself. -/
def isolated : Network := ⟨resolveAlone, connectAlone⟩

end SecureStream.Tcp
