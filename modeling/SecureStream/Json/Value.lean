import SecureStream.Decimal.Shortest
import SecureStream.Text.Quoted

/-! # Values of a JSON document

A number is a whole number of sixty-four bits, of either sign, or else known by its text only.
`describe` tells what a value is, for a reader who expected something else. -/

namespace SecureStream

/-- A JSON number. -/
inductive Json.Number
  /-- A whole number below `2 ^ 64`. -/
  | unsigned (n : Nat)
  /-- A whole number below zero, at least `-2 ^ 63`. -/
  | negative (n : Int)
  /-- Any other number, by the text of the nearest double. -/
  | floating (text : String)
deriving DecidableEq, Repr

/-- **A JSON value**, the members of an object in the order of the text. -/
inductive Json
  | null
  | bool (b : Bool)
  | number (n : Json.Number)
  | string (s : String)
  | array (entries : List Json)
  | object (members : List (String × Json))

namespace Json

/-- What a value is, in words. -/
def describe : Json → String
  | null => "null"
  | bool b => "boolean `" ++ toString b ++ "`"
  | number (.unsigned n) => "integer `" ++ toString n ++ "`"
  | number (.negative n) => "integer `" ++ toString n ++ "`"
  | number (.floating text) => "floating point `" ++ text ++ "`"
  | string s => "string " ++ Text.quote s
  | array _ => "sequence"
  | object _ => "map"

end Json

end SecureStream
