import SecureStream.Der.Reader
import SecureStream.Text.Utf8
import SecureStream.Tls.CertificateError

/-! # Names in certificates

The names that a certificate presents, or that a constraint speaks of. Of a name that cannot be
compared only the kind is kept. -/

namespace SecureStream.X509

/-- A name of a subject. -/
inductive GeneralName
  | dns (name : Bytes)
  | directory
  | address (octets : Bytes)
  | uri (text : Bytes)
  | unsupported (tag : UInt8)
deriving DecidableEq, Repr

namespace GeneralName

/-- The name of an element. -/
def ofElement? (e : Der.Element) : Option GeneralName :=
  match e.tag with
  | 0x82 => some (dns e.content)
  | 0xa4 => some directory
  | 0x87 => some (address e.content)
  | 0x86 => some (uri e.content)
  | 0xa0 => some (unsupported 0)
  | 0x81 => some (unsupported 1)
  | 0xa3 => some (unsupported 3)
  | 0xa5 => some (unsupported 5)
  | 0x88 => some (unsupported 8)
  | _ => none

/-- Names one after another. `none` at the end of the list stands for what cannot be read. -/
def readAll (b : Bytes) : List (Option GeneralName) :=
  if b.isEmpty then []
  else match _h : Der.next? b with
    | none => [none]
    | some (e, rest) =>
      match ofElement? e with
      | none => [none]
      | some name => some name :: readAll rest
termination_by b.length
decreasing_by exact Der.length_next? (by assumption)

/-! ### Listings -/

/-- A number in hexadecimal without leading zeros. -/
def hex (n : Nat) : String := String.ofList (Nat.toDigits 16 n)

/-- A number below 256 in two hexadecimal digits. -/
def hexPair (b : UInt8) : String := String.ofList (Bytes.hexPair b)

/-- Groups of sixteen bits with colons between them. Every group of zeros but the first is left out,
and what follows left-out groups stands after two colons. -/
def renderGroups : (skipping : Bool) → List Nat → String
  | _, [] => ""
  | skipping, g :: rest =>
    if g = 0 then renderGroups true rest
    else (if skipping then "::" else ":") ++ hex g ++ renderGroups false rest

/-- The groups of sixteen bits of octets. -/
def groupsOf : Bytes → List Nat
  | h :: l :: rest => (256 * h.toNat + l.toNat) :: groupsOf rest
  | _ => []

/-- An address in a listing. -/
def renderAddress (octets : Bytes) : String :=
  if octets.length = 4 then ".".intercalate (octets.map fun b => toString b.toNat)
  else if octets.length = 16 then
    match groupsOf octets with
    | [] => ""
    | g :: rest => hex g ++ renderGroups false rest
  else "[invalid: " ++ ", ".intercalate (octets.map hexPair) ++ "]"

/-- A name in a listing. -/
def inspect : GeneralName → String
  | dns name => "DnsName(\"" ++ Text.decodeLossy name ++ "\")"
  | directory => "DirectoryName"
  | address octets => "IpAddress(" ++ renderAddress octets ++ ")"
  | uri text => "UniformResourceIdentifier(\"" ++ Text.decodeLossy text ++ "\")"
  | unsupported tag => "Unsupported(0x" ++ hexPair tag ++ ")"

end GeneralName

end SecureStream.X509
