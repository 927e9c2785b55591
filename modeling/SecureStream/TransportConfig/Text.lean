import SecureStream.TransportConfig.Members

/-! # Configurations as JSON text

The text is read from front to back and the first thing wrong with it is reported, be it the form
of the text or the value of a field. An object sets fields by key, a list by position. -/

namespace SecureStream.TransportConfig

open Json (Defect dropBlanks word stringBody shallow)

/-- Reports what is wrong with the form of the text. -/
def formed {α : Type} (r : Except Defect α) : Except Refusal α := r.mapError .defect

/-- A choice in the form of an object, after its opening brace. The name is judged before the rest
is read. -/
def readChoiceObject {α : Type} (choices : List (String × α)) (s : List Char) :
    Except Refusal (Json × List Char) := do
  let (found, s) ← formed (shallow s)
  match found with
  | .string name =>
    let _ ← lookUp choices name
    match dropBlanks s with
    | ':' :: s =>
      let (value, s) ← formed (shallow s)
      let _ ← choiceOf choices (.object [(name, value)])
      match dropBlanks s with
      | '\x7d' :: s => return (.object [(name, value)], s)
      | [] => .error (.defect .endInObject)
      | _ => .error (.defect .expectedValue)
    | [] => .error (.defect .endInObject)
    | _ => .error (.defect .expectedColon)
  | v => .error (.invalidType v "variant identifier")

/-- The value of a choice. -/
def readChoice {α : Type} (choices : List (String × α)) (s : List Char) :
    Except Refusal (Json × List Char) :=
  match dropBlanks s with
  | '\x7b' :: s => readChoiceObject choices s
  | '"' :: s => formed do
    let (name, s) ← stringBody s
    return (Json.string name, s)
  | [] => .error (.defect .endInValue)
  | _ => .error (.defect .expectedValue)

/-- The value of a field. -/
def readValue (s : List Char) : Field → Except Refusal (Json × List Char)
  | .profile => readChoice profiles s
  | .family => readChoice families s
  | _ => formed (shallow s)

/-- Reads the value of a field in its place and sets it. -/
def readField (o : Overrides) (f : Field) (s : List Char) :
    Except Refusal (Overrides × List Char) := do
  let (value, s) ← readValue s f
  let o ← o.set value f
  return (o, s)

/-- The value of a member, after its key. -/
def readMember (o : Overrides) (key : String) (s : List Char) :
    Except Refusal (Overrides × List Char) := do
  let field := Field.ofKey? key
  if field.any o.isSet then .error (.duplicateField (field.getD .recvTimeout))
  match dropBlanks s with
  | ':' :: s =>
    match field with
    | none => return (o, ← formed (Json.skip s))
    | some f => do
      let (value, s) ← readValue s f
      return (← o.member (key, value), s)
  | [] => .error (.defect .endInObject)
  | _ => .error (.defect .expectedColon)

/-- The members of an object up to its closing brace, each of which uses a character. -/
def readMembers : (fuel : Nat) → (first : Bool) → Overrides → List Char →
    Except Refusal (Overrides × List Char)
  | 0, _, _, _ => .error (.defect .endInObject)
  | fuel + 1, first, o, s =>
    let key (s : List Char) : Except Refusal (Overrides × List Char) := do
      let (k, s) ← formed (stringBody s)
      let (o, s) ← readMember o k s
      readMembers fuel false o s
    match first, dropBlanks s with
    | _, [] => .error (.defect .endInObject)
    | _, '\x7d' :: s => .ok (o, s)
    | true, '"' :: s => key s
    | true, _ => .error (.defect .keyMustBeAString)
    | false, ',' :: s =>
      match dropBlanks s with
      | '"' :: s => key s
      | '\x7d' :: _ => .error (.defect .trailingComma)
      | [] => .error (.defect .endInValue)
      | _ => .error (.defect .keyMustBeAString)
    | false, _ => .error (.defect .expectedObjectCommaOrEnd)

/-- The end of a list after the last field. -/
def readListEnd (s : List Char) : Except Defect (List Char) :=
  match dropBlanks s with
  | ']' :: s => .ok s
  | ',' :: s =>
    match dropBlanks s with
    | ']' :: _ => .error .trailingComma
    | _ => .error .trailingCharacters
  | [] => .error .endInList
  | _ => .error .trailingCharacters

/-- The entries of a list up to its closing bracket, one for each of the remaining fields. -/
def readEntries : List Field → (first : Bool) → Overrides → List Char →
    Except Refusal (Overrides × List Char)
  | [], _, o, s => do return (o, ← formed (readListEnd s))
  | f :: fs, first, o, s =>
    let entry (s : List Char) : Except Refusal (Overrides × List Char) := do
      let (o, s) ← readField o f s
      readEntries fs false o s
    match first, dropBlanks s with
    | _, [] => .error (.defect .endInList)
    | _, ']' :: s => .ok (o, s)
    | true, s => entry s
    | false, ',' :: s =>
      match dropBlanks s with
      | ']' :: _ => .error (.defect .trailingComma)
      | [] => .error (.defect .endInValue)
      | s => entry s
    | false, _ => .error (.defect .expectedListCommaOrEnd)

/-- **The configuration that a text describes.** -/
def ofText (text : String) : Except Refusal TransportConfig := do
  let (o, rest) ← match dropBlanks text.toList with
    | '\x7b' :: s => readMembers (s.length + 1) true .none s
    | '[' :: s => readEntries Field.all true .none s
    | s => do
      let (v, _) ← formed (shallow s)
      .error (.invalidType v "struct TransportConfig")
  if (dropBlanks rest).isEmpty then return o.apply else .error (.defect .trailingCharacters)

end SecureStream.TransportConfig
