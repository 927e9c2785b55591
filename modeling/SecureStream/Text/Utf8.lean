import SecureStream.Bytes

/-! # UTF-8 with replacement

`decodeLossy` reads octets as UTF-8. A sequence that breaks off or cannot start is replaced by one
replacement character, up to the octet that does not fit. -/

namespace SecureStream.Text

/-- What stands for octets that are no text. -/
def replacement : Char := Char.ofNat 0xFFFD

/-- How a character starts: how many octets follow, the bits of the first, and the range of the
second. -/
structure Lead where
  following : Nat
  bits : Nat
  lowest : Nat
  highest : Nat

/-- The lead that an octet beyond ASCII stands for. -/
def Lead.of? (b : Nat) : Option Lead :=
  if 0xC2 ≤ b ∧ b ≤ 0xDF then some ⟨1, b % 32, 0x80, 0xBF⟩
  else if b = 0xE0 then some ⟨2, 0, 0xA0, 0xBF⟩
  else if b = 0xED then some ⟨2, 13, 0x80, 0x9F⟩
  else if 0xE1 ≤ b ∧ b ≤ 0xEF then some ⟨2, b % 16, 0x80, 0xBF⟩
  else if b = 0xF0 then some ⟨3, 0, 0x90, 0xBF⟩
  else if b = 0xF4 then some ⟨3, 4, 0x80, 0x8F⟩
  else if 0xF1 ≤ b ∧ b ≤ 0xF3 then some ⟨3, b % 8, 0x80, 0xBF⟩
  else none

/-- A character that is not complete yet: the octets that it lacks, its bits so far, and the range
of its next octet. -/
structure Partial where
  missing : Nat
  bits : Nat
  lowest : Nat
  highest : Nat

/-- Reads on with an open character or none. -/
def decodeFrom : Option Partial → Bytes → List Char
  | none, [] => []
  | some _, [] => [replacement]
  | none, b :: rest =>
    let n := b.toNat
    if n < 128 then Char.ofNat n :: decodeFrom none rest
    else match Lead.of? n with
      | some l => decodeFrom (some ⟨l.following, l.bits, l.lowest, l.highest⟩) rest
      | none => replacement :: decodeFrom none rest
  | some p, b :: rest =>
    let n := b.toNat
    if p.lowest ≤ n ∧ n ≤ p.highest then
      let bits := p.bits * 64 + n % 64
      if p.missing ≤ 1 then Char.ofNat bits :: decodeFrom none rest
      else decodeFrom (some ⟨p.missing - 1, bits, 0x80, 0xBF⟩) rest
    else
      replacement ::
        (if n < 128 then Char.ofNat n :: decodeFrom none rest
        else match Lead.of? n with
          | some l => decodeFrom (some ⟨l.following, l.bits, l.lowest, l.highest⟩) rest
          | none => replacement :: decodeFrom none rest)

/-- **The text of octets**, with replacements where they are none. -/
def decodeLossy (b : Bytes) : String := String.ofList (decodeFrom none b)

end SecureStream.Text
