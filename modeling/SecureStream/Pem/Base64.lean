import SecureStream.Bytes

/-! # Base64

Blanks are passed over, padding may stand only at the end, and missing padding at the end is
accepted. `decode` reads in blocks of eight characters; `encode` writes the padded form, which
`decode` reads back (`SecureStream.Pem.Base64.RoundTrip`). -/

namespace SecureStream.Pem.Base64

/-- What is wrong with an encoding. -/
inductive Defect
  | invalidCharacter (b : UInt8)
  /-- Padding stands before the last four characters. -/
  | prematurePadding
  /-- The last block has no form that ends an encoding. -/
  | invalidTrailingPadding
deriving DecidableEq, Repr

/-- A defect in words. -/
def Defect.message : Defect → String
  | invalidCharacter b => "InvalidCharacter(" ++ toString b.toNat ++ ")"
  | prematurePadding => "PrematurePadding"
  | invalidTrailingPadding => "InvalidTrailingPadding"

/-- A character of an encoding: six bits, or padding. -/
inductive Symbol
  | six (n : Nat)
  | pad
deriving DecidableEq, Repr

namespace Symbol

/-- The symbol of an octet, if it is one. -/
def of? (b : UInt8) : Option Symbol :=
  let n := b.toNat
  if 65 ≤ n ∧ n ≤ 90 then some (six (n - 65))
  else if 97 ≤ n ∧ n ≤ 122 then some (six (n - 71))
  else if 48 ≤ n ∧ n ≤ 57 then some (six (n + 4))
  else if n = 43 then some (six 62)
  else if n = 47 then some (six 63)
  else if n = 61 then some pad
  else none

/-- The bits of a symbol; padding has none. -/
def bits : Symbol → Nat
  | six n => n
  | pad => 0

/-- Whether a symbol is padding. -/
def isPad : Symbol → Bool
  | pad => true
  | six _ => false

end Symbol

/-- A space, or one of the controls from the tab to the carriage return. -/
def isBlank (b : UInt8) : Bool := b == 32 || (9 ≤ b && b ≤ 13)

/-- The three octets of four symbols. -/
def octets (a b c d : Symbol) : Bytes :=
  let n := ((a.bits * 64 + b.bits) * 64 + c.bits) * 64 + d.bits
  [UInt8.ofNat (n / 65536), UInt8.ofNat (n / 256), UInt8.ofNat n]

/-- The octets of symbols without padding, four at a time. -/
def wholeGroups : List Symbol → Bytes
  | a :: b :: c :: d :: rest => octets a b c d ++ wholeGroups rest
  | _ => []

/-- The octets of the last group, which may be short or padded. -/
def lastGroup : List Symbol → Except Defect Bytes
  | [] => .ok []
  | [.six a, .six b, .six c, .six d] => .ok (octets (.six a) (.six b) (.six c) (.six d))
  | [.six a, .six b, .six c, .pad] | [.six a, .six b, .six c] =>
    .ok ((octets (.six a) (.six b) (.six c) .pad).take 2)
  | [.six a, .six b, .pad, .pad] | [.six a, .six b] =>
    .ok ((octets (.six a) (.six b) .pad .pad).take 1)
  | _ => .error .invalidTrailingPadding

/-- The octets of the last block of at most eight symbols. -/
def lastBlock (block : List Symbol) : Except Defect Bytes :=
  if 4 < block.length then
    if (block.take 4).any Symbol.isPad then .error .prematurePadding
    else (lastGroup (block.drop 4)).map (wholeGroups (block.take 4) ++ ·)
  else lastGroup block

/-- Reads on with the symbols of an unfinished block. -/
def decodeFrom (block : List Symbol) : Bytes → Except Defect Bytes
  | [] => lastBlock block
  | b :: rest =>
    if isBlank b then decodeFrom block rest
    else match Symbol.of? b with
      | none => .error (.invalidCharacter b)
      | some s =>
        if block.length = 8 then
          if block.any Symbol.isPad then .error .prematurePadding
          else (decodeFrom [s] rest).map (wholeGroups block ++ ·)
        else decodeFrom (block ++ [s]) rest

/-- **The octets that an encoding stands for.** -/
def decode (b : Bytes) : Except Defect Bytes := decodeFrom [] b

/-- The character of six bits. -/
def digit (n : Nat) : UInt8 :=
  if n < 26 then UInt8.ofNat (65 + n)
  else if n < 52 then UInt8.ofNat (71 + n)
  else if n < 62 then UInt8.ofNat (n - 4)
  else if n = 62 then 43
  else 47

/-- **The padded encoding of octets.** -/
def encode : Bytes → Bytes
  | [] => []
  | [a] =>
    let n := a.toNat * 65536
    [digit (n / 262144), digit (n / 4096 % 64), 61, 61]
  | [a, b] =>
    let n := a.toNat * 65536 + b.toNat * 256
    [digit (n / 262144), digit (n / 4096 % 64), digit (n / 64 % 64), 61]
  | a :: b :: c :: rest =>
    let n := a.toNat * 65536 + b.toNat * 256 + c.toNat
    digit (n / 262144) :: digit (n / 4096 % 64) :: digit (n / 64 % 64) :: digit (n % 64) ::
      encode rest

end SecureStream.Pem.Base64
