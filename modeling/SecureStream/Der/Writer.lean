import SecureStream.Der.Reader

/-! # Writing DER

Elements with lengths in their shortest form. What is written is read back
(`element?_element`). -/

namespace SecureStream.Der

/-- How many octets a number takes. -/
def width (n : Nat) : Nat := n.log2 / 8 + 1

/-- A length in its shortest form. -/
def lengthOctets (n : Nat) : Bytes :=
  if n < 128 then [UInt8.ofNat n] else UInt8.ofNat (0x80 + width n) :: Bytes.ofNat (width n) n

theorem width_bounds {n : Nat} (h : n ≠ 0) :
    Nat.pow 256 (width n - 1) ≤ n ∧ n < Nat.pow 256 (width n) := by
  have hl := Nat.log2_self_le h
  have hu := Nat.lt_log2_self (n := n)
  have e : (256 : Nat) = 2 ^ 8 := rfl
  simp only [Nat.pow_eq, e, ← Nat.pow_mul, width, Nat.add_sub_cancel]
  exact ⟨Nat.le_trans (Nat.pow_le_pow_right (by omega) (by omega)) hl,
    Nat.lt_of_lt_of_le hu (Nat.pow_le_pow_right (by omega) (by omega))⟩

/-- **A length is read back.** -/
theorem length?_lengthOctets {n : Nat} (h : n < longLimit) (rest : Bytes) :
    length? (lengthOctets n ++ rest) = some (n, rest) := by
  unfold lengthOctets
  split
  · have : n % 256 < 128 := by omega
    simp only [List.cons_append, List.nil_append, length?, UInt8.toNat_ofNat', if_pos this]
    rw [Nat.mod_eq_of_lt (by omega)]
  · obtain ⟨hl, hu⟩ := width_bounds (n := n) (by omega)
    have hw : width n = 1 ∨ width n = 2 ∨ width n = 3 ∨ width n = 4 := by
      have : ¬ 5 ≤ width n := fun h5 => by
        have := Nat.le_trans (Nat.pow_le_pow_right (show 0 < 256 by omega)
          (show 4 ≤ width n - 1 by omega)) hl
        simp only [longLimit] at h
        omega
      have : width n ≠ 0 := by simp [width]
      omega
    rcases hw with w | w | w | w <;> rw [w] at hl hu ⊢ <;>
      simp only [Bytes.ofNat, List.cons_append, List.nil_append, length?, UInt8.toNat_ofNat',
        Nat.pow_eq] at hl hu ⊢ <;>
      repeat rw [if_neg (by decide)]
    all_goals
      rw [if_pos (by decide), if_pos (by omega)]
      simp only [Option.some.injEq, Prod.mk.injEq, and_true]
      omega

/-- **An element** with its contents. -/
def element (tag : UInt8) (content : Bytes) : Bytes :=
  tag :: (lengthOctets content.length ++ content)

/-- **An element is read back.** -/
theorem element?_element {limit : Nat} {tag : UInt8} {content : Bytes} (ht : tag.toNat % 32 ≠ 31)
    (hc : content.length < limit) (hl : limit ≤ longLimit) (rest : Bytes) :
    element? limit (element tag content ++ rest) = some (⟨tag, content⟩, rest) := by
  rw [element, List.cons_append, List.append_assoc, element?, if_neg ht,
    length?_lengthOctets (Nat.lt_of_lt_of_le hc hl)]
  simp only [List.length_append, List.take_left', List.drop_left']
  rw [if_pos ⟨hc, Nat.le_add_right _ _⟩]

/-- The contents of a number, without leading zeros and with room for the sign. -/
def naturalContent (n : Nat) : Bytes := Bytes.ofNat (width n + if n.log2 % 8 = 7 then 1 else 0) n

/-- A number. -/
def natural (n : Nat) : Bytes := element integer (naturalContent n)

end SecureStream.Der
