/-! # Byte strings

A byte string is a list of octets, so that every reader in the library is a recursion on its input.

* `toHex`, `ofHex?`: the lower-case hexadecimal form and its reader (`ofHex?_toHex`).
* `contains`: whether a byte string stands inside another (`contains_iff`).
* `toNat`, `ofNat`: big-endian numbers (`toNat_ofNat`).
* `toLittle`, `ofLittle`: little-endian numbers (`toLittle_ofLittle`).
* `pieces`: cuts octets into pieces of a length (`flatten_pieces`). -/

namespace SecureStream

/-- A string of octets. -/
abbrev Bytes := List UInt8

namespace Bytes

/-! ### Text -/

/-- The UTF-8 form of a text. -/
def ofText (s : String) : Bytes := s.toUTF8.data.toList

/-- The text with this UTF-8 form, if there is one. -/
def toText? (b : Bytes) : Option String := String.fromUTF8? ⟨b.toArray⟩

/-! ### Hexadecimal -/

/-- The lower-case digit of a number below sixteen. -/
def hexDigit (n : Nat) : Char :=
  if n < 10 then Char.ofNat (48 + n) else Char.ofNat (87 + n)

/-- The value of a hexadecimal digit of either case. -/
def hexValue? (c : Char) : Option Nat :=
  if '0' ≤ c ∧ c ≤ '9' then some (c.toNat - 48)
  else if 'a' ≤ c ∧ c ≤ 'f' then some (c.toNat - 87)
  else if 'A' ≤ c ∧ c ≤ 'F' then some (c.toNat - 55)
  else none

/-- The two digits of an octet. -/
def hexPair (b : UInt8) : List Char := [hexDigit (b.toNat / 16), hexDigit (b.toNat % 16)]

/-- The lower-case hexadecimal form, two digits an octet. -/
def toHex (b : Bytes) : String := String.ofList (b.flatMap hexPair)

/-- Reads pairs of hexadecimal digits. -/
def ofHexDigits? : List Char → Option Bytes
  | [] => some []
  | [_] => none
  | h :: l :: rest => do
    let h ← hexValue? h
    let l ← hexValue? l
    let tail ← ofHexDigits? rest
    return UInt8.ofNat (16 * h + l) :: tail

/-- Reads a hexadecimal form. -/
def ofHex? (s : String) : Option Bytes := ofHexDigits? s.toList

theorem hexValue?_hexDigit {n : Nat} (h : n < 16) : hexValue? (hexDigit n) = some n := by
  have : ∀ n < 16, hexValue? (hexDigit n) = some n := by decide
  exact this n h

theorem ofHexDigits?_flatMap (b : Bytes) : ofHexDigits? (b.flatMap hexPair) = some b := by
  induction b with
  | nil => rfl
  | cons x rest ih =>
    have hx := x.toNat_lt
    have : UInt8.ofNat (16 * (x.toNat / 16) + x.toNat % 16) = x := by
      rw [Nat.div_add_mod, UInt8.ofNat_toNat]
    simp only [List.flatMap_cons, hexPair, List.cons_append, List.nil_append, ofHexDigits?,
      hexValue?_hexDigit (show x.toNat / 16 < 16 by omega),
      hexValue?_hexDigit (show x.toNat % 16 < 16 by omega), ih]
    exact congrArg (fun y => some (y :: rest)) this

/-- **The hexadecimal form is read back.** -/
theorem ofHex?_toHex (b : Bytes) : ofHex? (toHex b) = some b := by
  rw [ofHex?, toHex, String.toList_ofList, ofHexDigits?_flatMap]

/-! ### Parts -/

/-- Whether `needle` stands somewhere in `hay`. -/
def contains (needle : Bytes) : Bytes → Bool
  | [] => needle.isEmpty
  | b :: rest => needle.isPrefixOf (b :: rest) || contains needle rest

/-- **`contains` decides being a part.** -/
theorem contains_iff {needle hay : Bytes} : contains needle hay = true ↔ needle <:+: hay := by
  induction hay with
  | nil => simp [contains]
  | cons b rest ih => simp [contains, ih, List.infix_cons_iff]

/-! ### Numbers -/

/-- The big-endian number that the octets spell. -/
def toNat (b : Bytes) : Nat := b.foldl (fun n x => 256 * n + x.toNat) 0

/-- The `width` low octets of a number, most significant first. -/
def ofNat (width n : Nat) : Bytes :=
  match width with
  | 0 => []
  | width + 1 => UInt8.ofNat (n / Nat.pow 256 width) :: ofNat width n

@[simp] theorem length_ofNat (width n : Nat) : (ofNat width n).length = width := by
  induction width with
  | zero => rfl
  | succ w ih => simp [ofNat, ih]

theorem toNat_append (a b : Bytes) :
    (a ++ b).toNat = a.toNat * Nat.pow 256 b.length + b.toNat := by
  rw [Nat.pow_eq]
  have h : ∀ (b : Bytes) (n : Nat), b.foldl (fun n x => 256 * n + x.toNat) n =
      n * 256 ^ b.length + b.toNat := by
    intro b
    induction b with
    | nil => intro n; simp [toNat]
    | cons x rest ih =>
      intro n
      rw [toNat, List.foldl_cons, List.foldl_cons, ih, ih]
      simp only [List.length_cons, Nat.pow_succ]
      grind
  rw [toNat, List.foldl_append, h]
  rfl

/-- **The octets of a number spell it**, if they are enough. -/
theorem toNat_ofNat (width n : Nat) : (ofNat width n).toNat = n % Nat.pow 256 width := by
  induction width with
  | zero => simp [ofNat, toNat, Nat.mod_one]
  | succ w ih =>
    have : ofNat (w + 1) n = [UInt8.ofNat (n / Nat.pow 256 w)] ++ ofNat w n := rfl
    rw [this, toNat_append, length_ofNat, ih]
    simp only [Nat.pow_eq]
    rw [Nat.mod_pow_succ]
    simp [toNat]
    grind

/-- The little-endian number that the octets spell. -/
def toLittle (b : Bytes) : Nat := toNat b.reverse

/-- The `width` low octets of a number, least significant first. -/
def ofLittle (width n : Nat) : Bytes := (ofNat width n).reverse

/-- **The octets of a number spell it** in this order too. -/
theorem toLittle_ofLittle (width n : Nat) :
    (ofLittle width n).toLittle = n % Nat.pow 256 width := by
  rw [toLittle, ofLittle, List.reverse_reverse, toNat_ofNat]

/-! ### Pieces -/

/-- Cuts octets into pieces of a length, the last perhaps shorter. -/
def pieces (n : Nat) (b : Bytes) : List Bytes :=
  if _h : n = 0 ∨ b = [] then []
  else b.take n :: pieces n (b.drop n)
termination_by b.length
decreasing_by
  have hb : b.length ≠ 0 := fun e => _h (.inr (List.eq_nil_of_length_eq_zero e))
  have hn : n ≠ 0 := fun e => _h (.inl e)
  simp only [List.length_drop]
  omega

/-- **The pieces are what was cut**, one behind another. -/
theorem flatten_pieces {n : Nat} (h : 0 < n) (b : Bytes) : (pieces n b).flatten = b := by
  fun_induction pieces n b with
  | case1 b hb =>
    rcases hb with hn | rfl
    · omega
    · rfl
  | case2 b _ ih => rw [List.flatten_cons, ih, List.take_append_drop]

end Bytes

end SecureStream
