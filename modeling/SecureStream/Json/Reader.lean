import SecureStream.Json.Value

/-! # Reading JSON text

Every reader takes the characters that are left and gives back what follows the part it read. A
defect ends the reading at the first place where the text cannot go on.

* `word`, `stringBody`, `readNumber`: the parts of a value.
* `skip`: passes over a whole value of any shape without building it. -/

namespace SecureStream.Json

/-- What is wrong with a text. -/
inductive Defect
  | endInList
  | endInObject
  | endInString
  | endInValue
  | expectedColon
  | expectedListCommaOrEnd
  | expectedObjectCommaOrEnd
  | expectedIdent
  | expectedValue
  | invalidEscape
  | invalidNumber
  | numberOutOfRange
  | controlCharacter
  | keyMustBeAString
  | loneSurrogate
  | trailingComma
  | trailingCharacters
  | endOfHexEscape
deriving DecidableEq, Repr

/-- A defect in words. -/
def Defect.message : Defect → String
  | endInList => "EOF while parsing a list"
  | endInObject => "EOF while parsing an object"
  | endInString => "EOF while parsing a string"
  | endInValue => "EOF while parsing a value"
  | expectedColon => "expected `:`"
  | expectedListCommaOrEnd => "expected `,` or `]`"
  | expectedObjectCommaOrEnd => "expected `,` or `\x7d`"
  | expectedIdent => "expected ident"
  | expectedValue => "expected value"
  | invalidEscape => "invalid escape"
  | invalidNumber => "invalid number"
  | numberOutOfRange => "number out of range"
  | controlCharacter =>
    "control character (\\u0000-\\u001F) found while parsing a string"
  | keyMustBeAString => "key must be a string"
  | loneSurrogate => "lone leading surrogate in hex escape"
  | trailingComma => "trailing comma"
  | trailingCharacters => "trailing characters"
  | endOfHexEscape => "unexpected end of hex escape"

/-- Space, tab, line feed and carriage return. -/
def isBlank (c : Char) : Bool := c == ' ' || c == '\t' || c == '\n' || c == '\r'

/-- What follows the blanks at the front. -/
def dropBlanks (s : List Char) : List Char := s.dropWhile isBlank

/-! ### Words and strings -/

/-- The rest of a word such as `null`. -/
def word : List Char → List Char → Except Defect (List Char)
  | [], s => .ok s
  | _ :: _, [] => .error .endInValue
  | w :: ws, c :: s => if c = w then word ws s else .error .expectedIdent

/-- Whether at least four octets are left. -/
def hasFourOctets (s : List Char) : Bool := 4 ≤ (String.ofList (s.take 4)).utf8ByteSize

/-- Four hexadecimal digits. The four octets that are taken for them have to be there. -/
def hexFour (s : List Char) : Except Defect (Nat × List Char) :=
  let digit? (c : Char) : Option Nat :=
    if '0' ≤ c ∧ c ≤ '9' then some (c.toNat - 48)
    else if 'a' ≤ c ∧ c ≤ 'f' then some (c.toNat - 87)
    else if 'A' ≤ c ∧ c ≤ 'F' then some (c.toNat - 55)
    else none
  let defect := if hasFourOctets s then Defect.invalidEscape else .endInString
  match s with
  | a :: b :: c :: d :: rest =>
    match digit? a, digit? b, digit? c, digit? d with
    | some a, some b, some c, some d => .ok (4096 * a + 256 * b + 16 * c + d, rest)
    | _, _, _, _ => .error defect
  | _ => .error defect

/-- The character that a `\u` escape stands for; one beyond sixteen bits takes two escapes. -/
def unicodeEscape (s : List Char) : Except Defect (Char × List Char) := do
  let (n, s) ← hexFour s
  if 0xDC00 ≤ n ∧ n ≤ 0xDFFF then .error .loneSurrogate
  else if n < 0xD800 ∨ 0xDBFF < n then .ok (Char.ofNat n, s)
  else
    match s with
    | [] => .error .endInString
    | '\\' :: s =>
      match s with
      | [] => .error .endInString
      | 'u' :: s =>
        let (m, s) ← hexFour s
        if m < 0xDC00 ∨ 0xDFFF < m then .error .loneSurrogate
        else .ok (Char.ofNat (0x10000 + (n - 0xD800) * 1024 + (m - 0xDC00)), s)
      | _ => .error .endOfHexEscape
    | _ => .error .endOfHexEscape

/-- The character that a one-letter escape stands for. -/
def simpleEscape? (c : Char) : Option Char :=
  match c with
  | '"' => some '"'
  | '\\' => some '\\'
  | '/' => some '/'
  | 'b' => some (Char.ofNat 8)
  | 'f' => some (Char.ofNat 12)
  | 'n' => some '\n'
  | 'r' => some '\r'
  | 't' => some '\t'
  | _ => none

/-- The characters of a string up to its closing quote; each step uses a character. -/
def stringChars : (fuel : Nat) → List Char → Except Defect (List Char × List Char)
  | 0, _ => .error .endInString
  | _ + 1, [] => .error .endInString
  | fuel + 1, c :: s =>
    if c = '"' then .ok ([], s)
    else if c = '\\' then
      match s with
      | [] => .error .endInString
      | 'u' :: s => do
        let (d, s) ← unicodeEscape s
        let (ds, s) ← stringChars fuel s
        return (d :: ds, s)
      | e :: s =>
        match simpleEscape? e with
        | none => .error .invalidEscape
        | some d => do
          let (ds, s) ← stringChars fuel s
          return (d :: ds, s)
    else if c.toNat < 32 then .error .controlCharacter
    else do
      let (ds, s) ← stringChars fuel s
      return (c :: ds, s)

/-- A string after its opening quote. -/
def stringBody (s : List Char) : Except Defect (String × List Char) := do
  let (cs, s) ← stringChars (s.length + 1) s
  return (String.ofList cs, s)

/-- Passes over a string after its opening quote. Escapes are checked for their form only. -/
def skipString : (fuel : Nat) → List Char → Except Defect (List Char)
  | 0, _ => .error .endInString
  | _ + 1, [] => .error .endInString
  | fuel + 1, c :: s =>
    if c = '"' then .ok s
    else if c = '\\' then
      match s with
      | [] => .error .endInString
      | 'u' :: s => do
        let (_, s) ← hexFour s
        skipString fuel s
      | e :: s => if (simpleEscape? e).isSome then skipString fuel s else .error .invalidEscape
    else if c.toNat < 32 then .error .controlCharacter
    else skipString fuel s

/-! ### Numbers -/

/-- The digits at the front and what follows them. -/
def digits : List Char → List Nat × List Char
  | [] => ([], [])
  | c :: s =>
    if c.isDigit then let (ds, rest) := digits s; ((c.toNat - 48) :: ds, rest)
    else ([], c :: s)

/-- The limit of the whole numbers that are kept exactly. -/
def wordLimit : Nat := 18446744073709551616

/-- Appends digits to a significand as long as it stays below the limit. The result tells how many
digits found a place. -/
def accumulate : (significand : Nat) → List Nat → Nat × Nat
  | n, [] => (n, 0)
  | n, d :: ds =>
    if 10 * n + d < wordLimit then
      let (m, count) := accumulate (10 * n + d) ds
      (m, count + 1)
    else (n, 0)

/-- The text of a number that is not whole: at least one digit on either side of the point, and an
exponent from `1e+16` on and below `0.00001`. -/
def numberLayout : Decimal.Layout := ⟨-5, 15, 1⟩

/-- The double `significand * 10 ^ exponent`, computed by scaling with powers of ten, which has to
stay finite. -/
def scale (significand : Nat) (exponent : Int) : Except Defect Float :=
  let start := Float.ofNat significand
  let power (n : Nat) : Float := Float.ofScientific 1 false n
  if significand = 0 then .ok start
  else if 0 ≤ exponent then
    if 308 < exponent then .error .numberOutOfRange
    else
      let x := start * power exponent.toNat
      if x.isInf then .error .numberOutOfRange else .ok x
  else
    let times := (-exponent - 1).toNat / 308
    let rest := (-exponent).toNat - 308 * times
    let x := (List.replicate (min times 3) (power 308)).foldl (· / ·) start
    .ok (if 3 < times then 0.0 else x / power rest)

/-- A number known by its text. -/
def floating (positive : Bool) (significand : Nat) (exponent : Int) : Except Defect Number := do
  let x ← scale significand exponent
  return .floating (numberLayout.render (if positive then x else -x))

/-- The exponent after its letter, added to the one before it. -/
def exponentPart (positive : Bool) (significand : Nat) (before : Int) (s : List Char) :
    Except Defect (Number × List Char) := do
  let (up, s) := match s with
    | '+' :: s => (true, s)
    | '-' :: s => (false, s)
    | s => (true, s)
  match s with
  | [] => .error .endInValue
  | c :: _ =>
    if !c.isDigit then .error .invalidNumber
    else
      let (ds, s) := digits s
      let n := ds.foldl (fun n d => 10 * n + d) 0
      if 2147483647 < n then
        if significand ≠ 0 ∧ up then .error .numberOutOfRange
        else return (.floating (if positive then "0.0" else "-0.0"), s)
      else
        let x ← floating positive significand (before + (if up then Int.ofNat n else -Int.ofNat n))
        return (x, s)

/-- What may follow the digits of a number that is not whole. -/
def exponentOrEnd (positive : Bool) (significand : Nat) (exponent : Int) (s : List Char) :
    Except Defect (Number × List Char) :=
  match s with
  | 'e' :: s | 'E' :: s => exponentPart positive significand exponent s
  | s => do
    let x ← floating positive significand exponent
    return (x, s)

/-- The digits after the point. -/
def fractionPart (positive : Bool) (significand : Nat) (before : Int) (s : List Char) :
    Except Defect (Number × List Char) :=
  match digits s with
  | ([], []) => .error .endInValue
  | ([], _ :: _) => .error .invalidNumber
  | (ds, rest) =>
    let (m, count) := accumulate significand ds
    exponentOrEnd positive m (before - count) rest

/-- What follows the whole part of a number; `dropped` of its digits found no place. -/
def numberTail (positive : Bool) (significand dropped : Nat) (s : List Char) :
    Except Defect (Number × List Char) :=
  match s with
  | '.' :: s => fractionPart positive significand dropped s
  | 'e' :: s | 'E' :: s => exponentPart positive significand dropped s
  | s =>
    if dropped ≠ 0 then exponentOrEnd positive significand dropped s
    else if positive then .ok (.unsigned significand, s)
    else if significand = 0 ∨ 9223372036854775808 < significand then do
      let x ← floating false significand 0
      return (x, s)
    else .ok (.negative (-(significand : Int)), s)

/-- A number after its sign. -/
def readNumber (positive : Bool) (s : List Char) : Except Defect (Number × List Char) :=
  match s with
  | [] => .error .endInValue
  | '0' :: s =>
    match s with
    | c :: _ => if c.isDigit then .error .invalidNumber else numberTail positive 0 0 s
    | [] => numberTail positive 0 0 s
  | c :: _ =>
    if !c.isDigit then .error .invalidNumber
    else
      let (ds, rest) := digits s
      let (m, count) := accumulate 0 ds
      numberTail positive m (ds.length - count) rest

/-- Passes over the exponent of a number, after its letter. -/
def skipExponent (s : List Char) : Except Defect (List Char) :=
  let s := match s with
    | '+' :: s | '-' :: s => s
    | s => s
  match digits s with
  | ([], _) => .error .invalidNumber
  | (_, rest) => .ok rest

/-- Passes over a number after its sign. -/
def skipNumber (s : List Char) : Except Defect (List Char) := do
  let rest ← match s with
    | '0' :: c :: s => if c.isDigit then .error .invalidNumber else .ok (c :: s)
    | '0' :: [] => .ok []
    | s => match digits s with
      | ([], _) => .error .invalidNumber
      | (_, rest) => .ok rest
  match rest with
  | '.' :: s =>
    match digits s with
    | ([], _) => .error .invalidNumber
    | (_, 'e' :: s) | (_, 'E' :: s) => skipExponent s
    | (_, rest) => .ok rest
  | 'e' :: s | 'E' :: s => skipExponent s
  | rest => .ok rest

/-! ### Whole values -/

/-- What a value is inside of. -/
inductive Enclosure
  | list
  | object
deriving DecidableEq

/-- Where the reader stands while it passes over a value. -/
inductive SkipPlace
  /-- Before a value. -/
  | value
  /-- After an opening bracket. -/
  | opened
  /-- Before the key of a member. -/
  | key
  /-- After a value. -/
  | after

/-- Passes over one value inside of the given enclosures, innermost first, and over all that
closes them. Each character is passed at most once and each value adds one step. -/
def skipWithin : (fuel : Nat) → SkipPlace → List Enclosure → List Char → Except Defect (List Char)
  | 0, _, _, _ => .error .endInValue
  | fuel + 1, .value, outer, s =>
    match dropBlanks s with
    | [] => .error .endInValue
    | 'n' :: s => do skipWithin fuel .after outer (← word ['u', 'l', 'l'] s)
    | 't' :: s => do skipWithin fuel .after outer (← word ['r', 'u', 'e'] s)
    | 'f' :: s => do skipWithin fuel .after outer (← word ['a', 'l', 's', 'e'] s)
    | '-' :: s => do skipWithin fuel .after outer (← skipNumber s)
    | '"' :: s => do skipWithin fuel .after outer (← skipString (s.length + 1) s)
    | '[' :: s => skipWithin fuel .opened (.list :: outer) s
    | '\x7b' :: s => skipWithin fuel .opened (.object :: outer) s
    | c :: s =>
      if c.isDigit then do skipWithin fuel .after outer (← skipNumber (c :: s))
      else .error .expectedValue
  | fuel + 1, .opened, outer, s =>
    match outer, dropBlanks s with
    | [], s => .ok s
    | .list :: _, [] => .error .endInList
    | .object :: _, [] => .error .endInObject
    | .list :: outer, ']' :: s => skipWithin fuel .after outer s
    | .object :: outer, '\x7d' :: s => skipWithin fuel .after outer s
    | .list :: outer, s => skipWithin fuel .value (.list :: outer) s
    | .object :: outer, s => skipWithin fuel .key (.object :: outer) s
  | fuel + 1, .key, outer, s =>
    match dropBlanks s with
    | [] => .error .endInObject
    | '"' :: s => do
      let s ← skipString (s.length + 1) s
      match dropBlanks s with
      | ':' :: s => skipWithin fuel .value outer s
      | [] => .error .endInObject
      | _ => .error .expectedColon
    | _ => .error .keyMustBeAString
  | fuel + 1, .after, outer, s =>
    match outer with
    | [] => .ok s
    | .list :: outer =>
      match dropBlanks s with
      | ',' :: s => skipWithin fuel .value (.list :: outer) s
      | ']' :: s => skipWithin fuel .after outer s
      | [] => .error .endInList
      | _ => .error .expectedListCommaOrEnd
    | .object :: outer =>
      match dropBlanks s with
      | ',' :: s => skipWithin fuel .key (.object :: outer) s
      | '\x7d' :: s => skipWithin fuel .after outer s
      | [] => .error .endInObject
      | _ => .error .expectedObjectCommaOrEnd

/-- **Passes over one value of any shape.** -/
def skip (s : List Char) : Except Defect (List Char) := skipWithin (3 * s.length + 3) .value [] s

/-- The value at the front, as far as it matters to one who expects a value of a single part: of a
list or an object only the opening bracket is read. -/
def shallow (s : List Char) : Except Defect (Json × List Char) :=
  match dropBlanks s with
  | [] => .error .endInValue
  | 'n' :: s => do return (.null, ← word ['u', 'l', 'l'] s)
  | 't' :: s => do return (.bool true, ← word ['r', 'u', 'e'] s)
  | 'f' :: s => do return (.bool false, ← word ['a', 'l', 's', 'e'] s)
  | '-' :: s => do
    let (n, s) ← readNumber false s
    return (.number n, s)
  | '"' :: s => do
    let (t, s) ← stringBody s
    return (.string t, s)
  | '[' :: s => .ok (.array [], s)
  | '\x7b' :: s => .ok (.object [], s)
  | c :: s =>
    if c.isDigit then do
      let (n, s) ← readNumber true (c :: s)
      return (.number n, s)
    else .error .expectedValue

end SecureStream.Json
