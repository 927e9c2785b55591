import SecureStream.TransportConfig.Basic
import SecureStream.Json.Reader

/-! # Configurations as JSON objects

A configuration is the defaults overridden field by field by the members of an object. Members with
other keys are passed over, and no field may be set twice.

* `ofMembers`: the configuration of a list of members.
* `Overrides.set`: what a member's value stands for. -/

namespace SecureStream.TransportConfig

/-- A field that a member may set. -/
inductive Field
  | recvTimeout
  | sendTimeout
  | handshakeTimeout
  | maxFragmentSize
  | profile
  | family
deriving DecidableEq, Repr

namespace Field

/-- Every field, in the order of a positional list. -/
def all : List Field :=
  [recvTimeout, sendTimeout, handshakeTimeout, maxFragmentSize, profile, family]

/-- The key of a field. -/
def key : Field → String
  | recvTimeout => "recv_timeout_ms"
  | sendTimeout => "send_timeout_ms"
  | handshakeTimeout => "handshake_timeout_ms"
  | maxFragmentSize => "max_fragment_size"
  | profile => "certificate_profile"
  | family => "address_family"

/-- The field with that key. -/
def ofKey? (key : String) : Option Field := all.find? fun f => f.key == key

end Field

/-- Why a document is no configuration. -/
inductive Refusal
  | defect (d : Json.Defect)
  /-- A value of the wrong type, with what was expected. -/
  | invalidType (found : Json) (expected : String)
  /-- A number out of range. -/
  | invalidValue (found : Int) (expected : String)
  | unknownVariant (name : String) (known : List String)
  | duplicateField (field : Field)

/-- A refusal in words. -/
def Refusal.message : Refusal → String
  | defect d => d.message
  | invalidType found expected => "invalid type: " ++ found.describe ++ ", expected " ++ expected
  | invalidValue found expected =>
    "invalid value: integer `" ++ toString found ++ "`, expected " ++ expected
  | unknownVariant name known =>
    "unknown variant `" ++ name ++ "`, expected " ++
      " or ".intercalate (known.map fun k => "`" ++ k ++ "`")
  | duplicateField field => "duplicate field `" ++ field.key ++ "`"

/-! ### Values -/

/-- A whole number of sixty-four bits; `expected` names the type. -/
def wordOf (expected : String) : Json → Except Refusal Nat
  | .number (.unsigned n) => .ok n
  | .number (.negative n) => .error (.invalidValue n expected)
  | v => .error (.invalidType v expected)

/-- A number, or null for none. -/
def optionalWordOf (expected : String) : Json → Except Refusal (Option Nat)
  | .null => .ok none
  | v => (wordOf expected v).map some

/-- The names that a choice may have. -/
def lookUp {α : Type} (choices : List (String × α)) (name : String) : Except Refusal α :=
  match choices.lookup name with
  | some a => .ok a
  | none => .error (.unknownVariant name (choices.map Prod.fst))

/-- A choice: its name, or an object with that name as its only key and null as the value. -/
def choiceOf {α : Type} (choices : List (String × α)) : Json → Except Refusal α
  | .string name => lookUp choices name
  | .object ((name, value) :: rest) => do
    let a ← lookUp choices name
    match value with
    | .null => if rest.isEmpty then .ok a else .error (.defect .expectedValue)
    | v => .error (.invalidType v "unit")
  | _ => .error (.defect .expectedValue)

/-- The profiles by name. -/
def profiles : List (String × CertificateProfile) :=
  [("default", .default), ("suite_b", .suiteB)]

/-- The address families by name. -/
def families : List (String × AddressFamily) := [("ipv4", .ipv4), ("ipv6", .ipv6)]

/-! ### Overrides -/

/-- The fields that members have set so far. -/
structure Overrides where
  recvTimeout : Option Duration
  sendTimeout : Option Duration
  handshakeTimeout : Option (Option Duration)
  maxFragmentSize : Option (Option Nat)
  profile : Option CertificateProfile
  family : Option AddressFamily
deriving DecidableEq

namespace Overrides

/-- Nothing is set. -/
def none : Overrides := ⟨.none, .none, .none, .none, .none, .none⟩

/-- Whether a field is set. -/
def isSet (o : Overrides) : Field → Bool
  | .recvTimeout => o.recvTimeout.isSome
  | .sendTimeout => o.sendTimeout.isSome
  | .handshakeTimeout => o.handshakeTimeout.isSome
  | .maxFragmentSize => o.maxFragmentSize.isSome
  | .profile => o.profile.isSome
  | .family => o.family.isSome

/-- Sets a field to what a value stands for. -/
def set (o : Overrides) (value : Json) : Field → Except Refusal Overrides
  | .recvTimeout => do
    let n ← wordOf "u64" value
    return { o with recvTimeout := some (.ofMillis n) }
  | .sendTimeout => do
    let n ← wordOf "u64" value
    return { o with sendTimeout := some (.ofMillis n) }
  | .handshakeTimeout => do
    let n ← optionalWordOf "u64" value
    return { o with handshakeTimeout := some (n.map .ofMillis) }
  | .maxFragmentSize => do
    let n ← optionalWordOf "usize" value
    return { o with maxFragmentSize := some n }
  | .profile => do
    let p ← choiceOf profiles value
    return { o with profile := some p }
  | .family => do
    let f ← choiceOf families value
    return { o with family := some f }

/-- The defaults with the set fields in their place. -/
def apply (o : Overrides) : TransportConfig where
  recvTimeout := o.recvTimeout.getD defaults.recvTimeout
  sendTimeout := o.sendTimeout.getD defaults.sendTimeout
  handshakeTimeout := o.handshakeTimeout.getD defaults.handshakeTimeout
  maxFragmentSize := o.maxFragmentSize.getD defaults.maxFragmentSize
  profile := o.profile.getD defaults.profile
  family := o.family.getD defaults.family

/-- Takes one member into account. -/
def member (o : Overrides) (m : String × Json) : Except Refusal Overrides :=
  match Field.ofKey? m.1 with
  | .none => .ok o
  | some f => if o.isSet f then .error (.duplicateField f) else o.set m.2 f

end Overrides

/-- **The configuration that the members of an object describe.** -/
def ofMembers (members : List (String × Json)) : Except Refusal TransportConfig :=
  (members.foldlM Overrides.member Overrides.none).map Overrides.apply

end SecureStream.TransportConfig
