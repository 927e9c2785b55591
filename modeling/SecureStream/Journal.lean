import SecureStream.IoError.Basic
import SecureStream.Duration

/-! # What a run leaves behind

Three records of a run, each in the order of events: the calls made on sockets, the warnings and
errors logged, and the changes of the metrics. `Journal.total` sums up the changes of a metric. -/

namespace SecureStream

/-! ### Socket calls -/

/-- The address family of a socket. -/
inductive AddressFamily
  | ipv4
  | ipv6
deriving DecidableEq, Repr

/-- The name of a family. -/
def AddressFamily.name : AddressFamily → String
  | ipv4 => "Ipv4"
  | ipv6 => "Ipv6"

/-- The type of a socket. -/
inductive SocketKind
  | stream
  | datagram
deriving DecidableEq, Repr

/-- The name of a type. -/
def SocketKind.name : SocketKind → String
  | stream => "Stream"
  | datagram => "Datagram"

/-- The protocol of a socket. -/
inductive SocketProtocol
  | tcp
  | udp
deriving DecidableEq, Repr

/-- The name of a protocol. -/
def SocketProtocol.name : SocketProtocol → String
  | tcp => "Tcp"
  | udp => "Udp"

/-- A setting of a socket; `none` stands for no limit. -/
inductive SocketOption
  | recvTimeout (limit : Option Duration)
  | sendTimeout (limit : Option Duration)
deriving DecidableEq

/-- A setting in words. -/
def SocketOption.render : SocketOption → String
  | recvTimeout limit => "recv_timeout " ++ (limit.map Duration.render).getD "none"
  | sendTimeout limit => "send_timeout " ++ (limit.map Duration.render).getD "none"

/-- What is asked of a socket. -/
inductive SocketRequest
  | socket (family : AddressFamily) (kind : SocketKind) (protocol : SocketProtocol)
  | setOption (option : SocketOption)
  | connect (host : String) (port : Nat)
  | send
  | recv
  | close
deriving DecidableEq

/-- How a request ended. -/
inductive SocketReply
  | done
  /-- Nothing was taken, or the stream has ended. -/
  | nothing
  | failed (kind : IoError.Kind)
deriving DecidableEq

/-- A request with its reply. -/
structure SocketCall where
  request : SocketRequest
  reply : SocketReply
deriving DecidableEq

namespace SocketCall

/-- A call in words. -/
def render (c : SocketCall) : String :=
  let request := match c.request with
    | .socket family kind protocol =>
      "socket " ++ family.name ++ " " ++ kind.name ++ " " ++ protocol.name
    | .setOption option => "set_option " ++ option.render
    | .connect host port => "connect_name " ++ host ++ " " ++ toString port
    | .send => "send"
    | .recv => "recv"
    | .close => "close"
  let reply := match c.reply, c.request with
    | .done, _ => ""
    | .nothing, .recv => " eof"
    | .nothing, _ => " zero"
    | .failed kind, _ => " error " ++ kind.name
  request ++ reply

end SocketCall

/-! ### Log events -/

/-- How serious a log event is. -/
inductive LogLevel
  | warn
  | error
deriving DecidableEq, Repr

/-- The label of a level. -/
def LogLevel.label : LogLevel → String
  | warn => "WARN"
  | error => "ERROR"

/-- A warning or an error, with named values. -/
structure LogEvent where
  level : LogLevel
  message : String
  fields : List (String × String)
deriving DecidableEq, Repr

namespace LogEvent

/-- A warning. -/
def warning (message : String) (fields : List (String × String)) : LogEvent :=
  ⟨.warn, message, fields⟩

/-- An error. -/
def failure (message : String) (fields : List (String × String)) : LogEvent :=
  ⟨.error, message, fields⟩

end LogEvent

/-! ### Metrics -/

/-- A measured quantity, with its label where it has one. -/
inductive Metric
  | connects
  | failedConnects (status : String)
  | handshakeRetries
  | handshakeDurations
  | bytesSent
  | bytesReceived
  | retries (direction : String)
  | closeNotifies (result : String)
  | activeConnections
deriving DecidableEq, Repr

namespace Metric

/-- The name of a metric, with its label. -/
def name : Metric → String
  | connects => "tls_transport_connect_total"
  | failedConnects status => "tls_transport_connect_failed_total\x7bstatus=" ++ status ++ "\x7d"
  | handshakeRetries => "tls_transport_handshake_retries_total"
  | handshakeDurations => "tls_transport_handshake_duration_ms"
  | bytesSent => "tls_transport_bytes_sent_total"
  | bytesReceived => "tls_transport_bytes_received_total"
  | retries direction => "tls_transport_io_retry_total\x7bdirection=" ++ direction ++ "\x7d"
  | closeNotifies result => "tls_transport_close_notify_total\x7bresult=" ++ result ++ "\x7d"
  | activeConnections => "tls_transport_active_connections"

end Metric

/-- A change of one metric. -/
structure MetricChange where
  metric : Metric
  by_ : Int
deriving DecidableEq, Repr

/-! ### The journal -/

/-- **What a run leaves behind.** -/
structure Journal where
  calls : Array SocketCall
  logs : Array LogEvent
  metrics : Array MetricChange

namespace Journal

/-- Nothing happened. -/
def empty : Journal := ⟨#[], #[], #[]⟩

/-- A call is made. -/
def call (j : Journal) (request : SocketRequest) (reply : SocketReply) : Journal :=
  { j with calls := j.calls.push ⟨request, reply⟩ }

/-- Events are logged. -/
def log (j : Journal) (events : List LogEvent) : Journal :=
  { j with logs := j.logs ++ events.toArray }

/-- A metric changes. -/
def count (j : Journal) (metric : Metric) (by_ : Int) : Journal :=
  { j with metrics := j.metrics.push ⟨metric, by_⟩ }

/-- The sum of the changes of one metric. -/
def total (j : Journal) (m : Metric) : Int :=
  (j.metrics.toList.filter fun c => c.metric == m).foldl (fun n c => n + c.by_) 0

/-- The metrics that changed, in the order of their first change, with the sums that are not
zero. -/
def totals (j : Journal) : List (Metric × Int) :=
  ((j.metrics.toList.map MetricChange.metric).eraseDups.map fun m => (m, j.total m)).filter fun p =>
    p.2 != 0

/-- Leaves out an entry that repeats the one before it. -/
def collapse : List String → List String
  | [] => []
  | [s] => [s]
  | s :: t :: rest => if s = t then collapse (t :: rest) else s :: collapse (t :: rest)

end Journal

end SecureStream
