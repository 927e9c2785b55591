import SecureStream.Duration
import SecureStream.Journal

/-! # Configuration of a transport

Socket timeouts, the handshake limit and the optional features of a session. A zero timeout means
no limit. `build` applies settings to the defaults in order, so the last setting of a field wins. -/

namespace SecureStream

/-- Which signatures are accepted on the way to the server's certificate. -/
inductive CertificateProfile
  /-- Every algorithm that the provider has. -/
  | default
  /-- ECDSA over P-256 with SHA-256 and over P-384 with SHA-384. -/
  | suiteB
deriving DecidableEq, Repr

/-- The label of a profile. -/
def CertificateProfile.label : CertificateProfile → String
  | default => "default"
  | suiteB => "suite_b"

/-- **The configuration of a transport.** -/
structure TransportConfig where
  recvTimeout : Duration
  sendTimeout : Duration
  /-- The time allowed for the handshake; without it, it follows from the socket timeouts. -/
  handshakeTimeout : Option Duration
  /-- The largest record that the client sends. -/
  maxFragmentSize : Option Nat
  profile : CertificateProfile
  family : AddressFamily
deriving DecidableEq

namespace TransportConfig

/-- Five seconds, the timeout of either direction where none is set. -/
def fiveSeconds : Duration := .ofMillis 5000

/-- The configuration where nothing is set. -/
def defaults : TransportConfig :=
  ⟨fiveSeconds, fiveSeconds, none, none, .default, .ipv4⟩

/-- One setting. -/
inductive Setting
  | recvTimeout (d : Duration)
  | sendTimeout (d : Duration)
  | handshakeTimeout (d : Duration)
  | maxFragmentSize (n : Nat)
  | profile (p : CertificateProfile)
  | family (f : AddressFamily)
deriving DecidableEq

/-- Applies one setting. -/
def set (c : TransportConfig) : Setting → TransportConfig
  | .recvTimeout d => { c with recvTimeout := d }
  | .sendTimeout d => { c with sendTimeout := d }
  | .handshakeTimeout d => { c with handshakeTimeout := some d }
  | .maxFragmentSize n => { c with maxFragmentSize := some n }
  | .profile p => { c with profile := p }
  | .family f => { c with family := f }

/-- **The defaults with settings applied in order.** -/
def build (settings : List Setting) : TransportConfig := settings.foldl set defaults

end TransportConfig

end SecureStream
