import SecureStream.IoError.System

/-! # Socket and file errors

An error carries its kind alone, a text of its own, an operating system number, or another error
beneath a new kind. `kind`, `message` and `systemCode?` are the three things that the rest of the
library reads off it. -/

namespace SecureStream

/-- What a socket or a file reports when a call fails. -/
inductive IoError
  /-- Nothing is known but the kind. -/
  | plain (kind : IoError.Kind)
  /-- The kind comes with a text of its own. -/
  | described (kind : IoError.Kind) (text : String)
  /-- The operating system gave a number. -/
  | system (code : Int)
  /-- The error beneath was given another kind. -/
  | wrapped (kind : IoError.Kind) (cause : IoError)
deriving DecidableEq, Repr

namespace IoError

/-- The kind of an error. -/
def kind : IoError → Kind
  | plain k => k
  | described k _ => k
  | system code => systemKind code
  | wrapped k _ => k

/-- The text of an error: its own, else that of its number or kind. -/
def message : IoError → String
  | plain k => k.describe
  | described _ text => text
  | system code => systemText code ++ " (os error " ++ toString code ++ ")"
  | wrapped _ cause => cause.message

/-- The operating system's number, if the error is one of its own. -/
def systemCode? : IoError → Option Int
  | system code => some code
  | _ => none

/-- Whether the error carries a text or another error. -/
def hasCause : IoError → Bool
  | described .. => true
  | wrapped .. => true
  | _ => false

/-- The number if there is one, else the name of the kind. -/
def detail (e : IoError) : String :=
  match e.systemCode? with
  | some code => "os error " ++ toString code
  | none => e.kind.name

end IoError

end SecureStream
