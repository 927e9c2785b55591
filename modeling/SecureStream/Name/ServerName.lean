import SecureStream.Name.Address

/-! # The identity of a server

A server is named by a host name or an internet address. A host name is kept as it was given.

* `Dns.isName`: the grammar of a host name; `Dns.labels` is its decomposition at the points.
* `ServerName.ofText?`: the identity that a text names. -/

namespace SecureStream

/-! ### Host names -/

namespace Name.Dns

/-- The longest host name. -/
def maxNameLength : Nat := 253

/-- The longest label. -/
def maxLabelLength : Nat := 63

/-- Splits at every point. -/
def labels : List Char → List (List Char)
  | [] => [[]]
  | c :: rest =>
    match labels rest with
    | [] => [[c]]
    | l :: ls => if c = '.' then [] :: l :: ls else (c :: l) :: ls

/-- An ASCII letter, digit, hyphen or underscore. -/
def isLabelChar (c : Char) : Bool := c.isAlphanum || c == '-' || c == '_'

/-- A label: one to sixty-three admissible characters, no hyphen at either end. -/
def isLabel (l : List Char) : Bool :=
  !l.isEmpty && l.length ≤ maxLabelLength && l.all isLabelChar &&
    l.head? != some '-' && l.getLast? != some '-'

/-- The labels without the empty one that a point at the end leaves. -/
def withoutRoot (ls : List (List Char)) : List (List Char) :=
  if 2 ≤ ls.length ∧ ls.getLast? = some [] then ls.dropLast else ls

/-- **A host name**: labels separated by points, perhaps a point at the end, and the last label
not a number. -/
def isName (s : List Char) : Bool :=
  let ls := withoutRoot (labels s)
  s.length ≤ maxNameLength && ls.all isLabel && !(ls.getLast?.any fun l => l.all Char.isDigit)

end Name.Dns

/-! ### Servers -/

/-- Who the other side has to be. -/
inductive ServerName
  | dns (name : String)
  | address (address : Name.Address)
deriving DecidableEq, Repr

namespace ServerName

/-- **Reads a server's identity**: a host name if the text is one, else an address. -/
def ofText? (host : String) : Option ServerName :=
  if Name.Dns.isName host.toList then some (dns host)
  else (Name.Address.ofText? host).map address

/-- The identity as text: the host name as given, the address in canonical form. -/
def text : ServerName → String
  | dns name => name
  | address a => a.render

end ServerName

end SecureStream
