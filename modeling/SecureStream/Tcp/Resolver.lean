import SecureStream.IoError.Basic
import SecureStream.Name.Address

/-! # Names that a host resolves by itself

A host without a network knows the numeric forms of addresses and its own name. About any other name
it would have to ask; a text that is no name at all is refused without asking.

* `isAskable`: whether a text is a name that can be asked for.
* `resolveAlone`: the addresses behind a text. -/

namespace SecureStream.Tcp

open Name (Address)

/-- Where a connection leads: an address, and the number of the link that it is to be found on, zero
if none is named. -/
structure Endpoint where
  address : Address
  link : Nat
deriving DecidableEq, Repr

/-! ### Names -/

/-- A character of a name, or the point between two labels. -/
abbrev Symbol := Option Char

/-- The symbols of a name. Behind a backslash stands a character as it is or by its code in three
digits. -/
def symbols? : List Char → Option (List Symbol)
  | [] => some []
  | '\\' :: c :: rest =>
    if !c.isDigit then (symbols? rest).map (some c :: ·)
    else
      match rest with
      | d :: e :: rest =>
        let code := Address.ofDigits 10 (Address.digits 10 [c, d, e]).1
        if d.isDigit && e.isDigit && code < 256 then
          (symbols? rest).map (some (Char.ofNat code) :: ·)
        else none
      | _ => none
  | ['\\'] => none
  | c :: rest => (symbols? rest).map ((if c = '.' then none else some c) :: ·)

/-- The labels between the points. -/
def labels : List Symbol → List (List Char)
  | [] => [[]]
  | none :: rest => [] :: labels rest
  | some c :: rest =>
    match labels rest with
    | [] => [[c]]
    | l :: ls => (c :: l) :: ls

/-- The labels less the empty one behind a point at the end. -/
def withoutRoot (ls : List (List Char)) : List (List Char) :=
  if 2 ≤ ls.length ∧ ls.getLast? = some [] then ls.dropLast else ls

/-- A letter, a digit, a hyphen or an underscore. -/
def isNameChar (c : Char) : Bool := c.isAlphanum || c == '-' || c == '_'

/-- The longest label. -/
def maxLabel : Nat := 63

/-- The octets that labels take in a question, each behind its length and all before an empty one. -/
def questionSize (ls : List (List Char)) : Nat :=
  ls.foldl (fun n l => n + l.length + 1) 1

/-- The longest question. -/
def maxQuestion : Nat := 255

/-- Whether labels can be asked for: a name of a host, or the single point that is the root. -/
def areAskable (ls : List (List Char)) : Bool :=
  ls == [[]] ||
    (ls.all fun l => !l.isEmpty && l.length ≤ maxLabel && l.all isNameChar) &&
      questionSize ls ≤ maxQuestion && (ls.headD []).head? != some '-'

/-- A visible character. -/
def isVisible (c : Char) : Bool := 0x20 < c.toNat && c.toNat < 0x7f

/-- **Whether a text is a name that can be asked for.** -/
def isAskable (host : List Char) : Bool :=
  !host.isEmpty && host.all isVisible &&
    (symbols? host).any fun l => areAskable (withoutRoot (labels l))

/-! ### Scopes -/

/-- Whether an address has to be found on a link: it is known on its own link or node only. -/
def isLinkLocal : Address → Bool
  | .v6 (g :: _) => g / 64 == 0x3fa || g / 256 == 0xff && (g % 16 == 1 || g % 16 == 2)
  | _ => false

/-- The number of the link to the host itself. -/
def ownLink : Nat := 1

/-- The link that a text names for an address: by a number, or the host's own by its name. -/
def link? (a : Address) (s : List Char) : Option Nat :=
  match Address.digits 10 s with
  | (ds@(_ :: _), []) =>
    let n := Address.ofDigits 10 ds
    if n < Nat.pow 2 32 then some n else none
  | _ => if isLinkLocal a && s == "lo".toList then some ownLink else none

/-- Reads an IPv6 address with a link behind a percent sign. -/
def scoped? (host : List Char) : Option Endpoint :=
  match host.span (· ≠ '%') with
  | (front, _ :: scope) =>
    (Address.readV6 front).bind fun a => (link? a scope).map (Endpoint.mk a)
  | _ => none

/-! ### Resolving -/

/-- The text of a failure to resolve a name. -/
def lookupFailure (reason : String) : IoError :=
  .described .uncategorized ("failed to lookup address information: " ++ reason)

/-- The endpoint that a text names without any question, as a number or as the host itself. -/
def endpoint? (host : String) : Option Endpoint :=
  let s := host.toList
  (((Address.ofText? host).or (Address.readParts s)).map fun a => ⟨a, 0⟩) <|> scoped? s <|>
    if s.map Char.toLower = "localhost".toList then some ⟨.v4 127 0 0 1, 0⟩ else none

/-- **Resolves a text** without a network. -/
def resolveAlone (host : String) : Except IoError (List Endpoint) :=
  if host.toList.any fun c => c.toNat = 0 then
    .error (.described .invalidInput "file name contained an unexpected NUL byte")
  else
    match endpoint? host with
    | some e => .ok [e]
    | none =>
      .error <| lookupFailure <|
        if isAskable host.toList then "Temporary failure in name resolution"
        else "Name or service not known"

end SecureStream.Tcp
