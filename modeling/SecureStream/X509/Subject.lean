import SecureStream.X509.DnsIdentifier
import SecureStream.X509.GeneralName
import SecureStream.X509.Certificate

/-! # Whose certificate it is

A certificate is good for a server if one of the names that it presents is the server's. -/

namespace SecureStream.X509.Subject

open Tls (CertificateError)

/-- Whether a presented name is the server's. -/
def isServer (server : ServerName) (name : GeneralName) : Bool :=
  match server, name with
  | .dns host, .dns presented =>
    (DnsIdentifier.isReference? presented (Bytes.ofText host)).getD false
  | .address a, .address octets => octets == a.octets
  | _, _ => false

/-- Looks for the server among names; what cannot be read before it is found is an error. -/
def find (server : ServerName) : List (Option GeneralName) → Except CertificateError Bool
  | [] => .ok false
  | none :: _ => defective .malformed
  | some name :: rest => if isServer server name then .ok true else find server rest

/-- **Whether a certificate is good for a server.** -/
def check (c : Certificate) (server : ServerName) : Except CertificateError Unit :=
  let names := GeneralName.readAll (c.extensions.subjectAltName.getD [])
  match find server names with
  | .error e => .error e
  | .ok true => .ok ()
  | .ok false => .error (.notValidForName server ((names.filterMap id).map GeneralName.inspect))

end SecureStream.X509.Subject
