import SecureStream.Der.Writer
import Mathlib.Data.List.Induction
import Mathlib.Data.Nat.Digits.Defs

/-! # The framing of a single value

Behind the tag of a SEQUENCE stands a length: one octet below `0x80`, or one to four octets, the
highest first, behind one that counts them (`LengthField`). Then come as many octets as the length
says (`Framed`). A length shows where it ends (`LengthField.of_append_eq`) and how much follows, so
a blob has one frame at most, and no framed blob is the front of another one.

The octets of a length are accumulated in a word of 64 bits (`Bytes.word`). Eight octets fill it,
and a length has four at most.

* `isSequence_framed`: what the check accepts, and why it accepts it once. -/

namespace SecureStream

/-! ### Numbers of a few octets -/

namespace Bytes

/-- The octets as digits to the base 256, the lowest first. -/
def digits (b : Bytes) : List ℕ := (b.map UInt8.toNat).reverse

/-- The number that the octets spell, accumulated in a word of 64 bits. -/
def word (b : Bytes) : UInt64 := b.foldl (fun acc x => acc <<< 8 ||| x.toUInt64) 0

theorem length_digits (b : Bytes) : b.digits.length = b.length := by
  rw [digits, List.length_reverse, List.length_map]

theorem digits_lt (b : Bytes) : ∀ d ∈ b.digits, d < 256 := by
  intro d hd
  obtain ⟨x, -, rfl⟩ := List.mem_map.mp (List.mem_reverse.mp hd)
  exact x.toNat_lt

theorem toNat_concat (b : Bytes) (x : UInt8) : toNat (b ++ [x]) = 256 * b.toNat + x.toNat := by
  rw [toNat, List.foldl_append]
  rfl

/-- **The highest digit comes first.** -/
theorem toNat_eq_ofDigits (b : Bytes) : b.toNat = Nat.ofDigits 256 b.digits := by
  induction b using List.reverseRecOn with
  | nil => rfl
  | append_singleton b x ih =>
    have hd : digits (b ++ [x]) = x.toNat :: digits b := by simp [digits]
    rw [toNat_concat, hd, Nat.ofDigits_cons, ih, Nat.add_comm]

theorem toNat_lt (b : Bytes) : b.toNat < 256 ^ b.length := by
  rw [toNat_eq_ofDigits, ← length_digits]
  exact Nat.ofDigits_lt_base_pow_length (by decide) b.digits_lt

theorem eq_of_toNat_eq {a b : Bytes} (hl : a.length = b.length) (h : a.toNat = b.toNat) :
    a = b := by
  rw [toNat_eq_ofDigits, toNat_eq_ofDigits] at h
  have hd : a.digits = b.digits :=
    Nat.ofDigits_inj_of_len_eq (by decide) (by rw [length_digits, length_digits, hl]) a.digits_lt
      b.digits_lt h
  exact (List.map_inj_right fun _ _ => UInt8.toNat_inj.mp).mp (List.reverse_inj.mp hd)

/-- **Octets are those of the number that they spell.** -/
theorem ofNat_toNat (b : Bytes) : ofNat b.length b.toNat = b := by
  refine eq_of_toNat_eq (length_ofNat ..) ?_
  rw [toNat_ofNat, Nat.pow_eq, Nat.mod_eq_of_lt b.toNat_lt]

/-- A shift makes room for the octet, and drops what is beyond the word. -/
theorem toNat_shift_or (acc : UInt64) (x : UInt8) :
    (acc <<< 8 ||| x.toUInt64).toNat = (256 * acc.toNat + x.toNat) % 2 ^ 64 := by
  have hx : x.toNat < 2 ^ 8 := x.toNat_lt
  have hs : (acc <<< 8).toNat = (acc.toNat % 2 ^ 56) <<< 8 := by
    rw [UInt64.toNat_shiftLeft, Nat.shiftLeft_eq, Nat.shiftLeft_eq]
    simp only [UInt64.reduceToNat, Nat.reduceMod, Nat.reducePow]
    omega
  rw [UInt64.toNat_or, hs, UInt8.toNat_toUInt64, ← Nat.shiftLeft_add_eq_or_of_lt hx,
    Nat.shiftLeft_eq]
  omega

/-- **The word holds what fits into it.** -/
theorem toNat_word (b : Bytes) : b.word.toNat = b.toNat % 2 ^ 64 := by
  induction b using List.reverseRecOn with
  | nil => rfl
  | append_singleton b x ih =>
    have hw : word (b ++ [x]) = word b <<< 8 ||| x.toUInt64 := by
      rw [word, List.foldl_append]
      rfl
    rw [hw, toNat_shift_or, ih, toNat_concat]
    omega

theorem toNat_word_of_length_le {b : Bytes} (h : b.length ≤ 8) : b.word.toNat = b.toNat := by
  have hb : b.toNat < 2 ^ 64 := calc
    b.toNat < 256 ^ b.length := b.toNat_lt
    _ ≤ 256 ^ 8 := Nat.pow_le_pow_right (by decide) h
  rw [toNat_word, Nat.mod_eq_of_lt hb]

end Bytes

namespace Der

/-! ### Lengths -/

/-- **A length as it stands behind a tag**, and the number that it says: in short form, or in long
form, which may be longer than the number needs. -/
inductive LengthField : Bytes → ℕ → Prop
  | short (len : UInt8) (h : len.toNat < 0x80) : LengthField [len] len.toNat
  | long (len : UInt8) (octets : Bytes) (hl : 0x81 ≤ len.toNat) (hu : len.toNat ≤ 0x84)
      (ho : octets.length = len.toNat - 0x80) :
      LengthField (len :: octets) (Nat.ofDigits 256 octets.digits)

/-- The long form in `width` octets. -/
def longForm (width n : ℕ) : Bytes := UInt8.ofNat (0x80 + width) :: Bytes.ofNat width n

variable {field field' rest rest' : Bytes} {n m : ℕ}

/-- **A length shows where it ends**: no length is the front of another one. -/
theorem LengthField.of_append_eq (hf : LengthField field n) (hf' : LengthField field' m)
    (h : field ++ rest = field' ++ rest') : field = field' ∧ n = m ∧ rest = rest' := by
  cases hf with
  | short len hlen =>
    cases hf' with
    | short len' hlen' =>
      obtain ⟨rfl, hr⟩ := List.cons.inj h
      exact ⟨rfl, rfl, hr⟩
    | long len' octets' hl' hu' ho' =>
      obtain ⟨rfl, -⟩ := List.cons.inj h
      omega
  | long len octets hl hu ho =>
    cases hf' with
    | short len' hlen' =>
      obtain ⟨rfl, -⟩ := List.cons.inj h
      omega
    | long len' octets' hl' hu' ho' =>
      obtain ⟨rfl, ht⟩ := List.cons.inj h
      obtain ⟨rfl, hr⟩ := List.append_inj ht (ho.trans ho'.symm)
      exact ⟨rfl, rfl, hr⟩

theorem lengthField_longForm {width : ℕ} (hpos : 1 ≤ width) (hle : width ≤ 4)
    (hn : n < 256 ^ width) : LengthField (longForm width n) n := by
  have hlen : (UInt8.ofNat (0x80 + width)).toNat = 0x80 + width := by
    rw [UInt8.toNat_ofNat']
    omega
  have hval : Nat.ofDigits 256 (Bytes.ofNat width n).digits = n := by
    rw [← Bytes.toNat_eq_ofDigits, Bytes.toNat_ofNat, Nat.pow_eq, Nat.mod_eq_of_lt hn]
  have h := LengthField.long (UInt8.ofNat (0x80 + width)) (Bytes.ofNat width n)
    (by omega) (by omega) (by rw [Bytes.length_ofNat]; omega)
  rwa [hval] at h

/-- **The five forms of a length.** -/
theorem lengthField_iff : LengthField field n ↔
    (n < 0x80 ∧ field = [UInt8.ofNat n]) ∨
      ∃ width, 1 ≤ width ∧ width ≤ 4 ∧ n < 256 ^ width ∧ field = longForm width n := by
  constructor
  · intro hf
    cases hf with
    | short len h => exact .inl ⟨h, by rw [UInt8.ofNat_toNat]⟩
    | long len octets hl hu ho =>
      rw [← Bytes.toNat_eq_ofDigits]
      refine .inr ⟨octets.length, by omega, by omega, octets.toNat_lt, ?_⟩
      rw [longForm, Bytes.ofNat_toNat, ho, Nat.add_sub_cancel' (by omega), UInt8.ofNat_toNat]
  · rintro (⟨hn, rfl⟩ | ⟨width, hpos, hle, hn, rfl⟩)
    · have hlen : (UInt8.ofNat n).toNat = n := by
        rw [UInt8.toNat_ofNat']
        omega
      have h := LengthField.short (UInt8.ofNat n) (by omega)
      rwa [hlen] at h
    · exact lengthField_longForm hpos hle hn

/-! ### The shortest length -/

theorem width_le {w : ℕ} (hw : 1 ≤ w) (h : n < 256 ^ w) : width n ≤ w := by
  by_cases h0 : n = 0
  · subst h0
    exact hw
  · have hb : 256 ^ (width n - 1) ≤ n := (width_bounds h0).1
    have hlt : width n - 1 < w :=
      (Nat.pow_lt_pow_iff_right (by decide)).mp (Nat.lt_of_le_of_lt hb h)
    omega

/-- **What is written for a length is one**, if four octets are enough. -/
theorem lengthField_lengthOctets (h : n < 2 ^ 32) : LengthField (lengthOctets n) n := by
  rw [lengthField_iff, lengthOctets]
  split
  · next hs => exact .inl ⟨hs, rfl⟩
  · next hs =>
    have hb : n < 256 ^ width n := (width_bounds (n := n) (by omega)).2
    exact .inr ⟨width n, by simp [width], width_le (by decide) h, hb, rfl⟩

/-- **No length is shorter** than the one that is written. -/
theorem LengthField.length_lengthOctets_le (hf : LengthField field n) :
    (lengthOctets n).length ≤ field.length := by
  rcases lengthField_iff.mp hf with ⟨hn, rfl⟩ | ⟨w, hpos, -, hn, rfl⟩
  · rw [lengthOctets, if_pos hn]
  · rw [lengthOctets]
    split
    · simp [longForm]
    · simpa [longForm] using width_le hpos hn

/-! ### Frames -/

/-- **A SEQUENCE in its frame**: its tag, a length, and as many octets as the length says. -/
structure Framed (b field content : Bytes) : Prop where
  length : LengthField field content.length
  octets : b = sequence :: (field ++ content)

/-- **Framed octets do not go on.** -/
theorem Framed.of_append {b c content content' : Bytes} (h : Framed b field content)
    (h' : Framed (b ++ c) field' content') : field = field' ∧ content = content' ∧ c = [] := by
  obtain ⟨hf, rfl⟩ := h
  obtain ⟨hf', hb⟩ := h'
  have happ : field ++ (content ++ c) = field' ++ content' := by
    simpa only [List.cons_append, List.append_assoc, List.cons.injEq, true_and] using hb
  obtain ⟨rfl, hlen, hc⟩ := hf.of_append_eq hf' happ
  obtain ⟨rfl, hnil⟩ := List.append_inj (hc.trans (List.append_nil content').symm) hlen
  exact ⟨rfl, rfl, hnil⟩

variable {len : UInt8} {b : Bytes}

theorem isSequence_short (h : len.toNat < 0x80) :
    isSequence (sequence :: len :: rest) = true ↔ rest.length = len.toNat := by
  simp [isSequence, h]

theorem isSequence_long (hl : 0x81 ≤ len.toNat) (hu : len.toNat ≤ 0x84) :
    isSequence (sequence :: len :: rest) = true ↔
      len.toNat - 0x80 ≤ rest.length ∧
        rest.length - (len.toNat - 0x80) = Bytes.toNat (rest.take (len.toNat - 0x80)) := by
  have hs : ¬len.toNat < 0x80 := by omega
  simp [isSequence, hs, hl, hu]

theorem exists_cons_of_isSequence (h : isSequence b = true) :
    ∃ len rest, b = sequence :: len :: rest ∧
      (len.toNat < 0x80 ∨ 0x81 ≤ len.toNat ∧ len.toNat ≤ 0x84) := by
  unfold isSequence at h
  split at h
  · next tag len rest =>
    split at h
    · cases h
    · next htag =>
      refine ⟨len, rest, by rw [not_not.mp htag], ?_⟩
      split at h
      · next hs => exact .inl hs
      · split at h
        · next hl => exact .inr hl
        · cases h
  · cases h

/-- **What is accepted is framed.** -/
theorem isSequence_iff : isSequence b = true ↔ ∃ field content, Framed b field content := by
  constructor
  · intro h
    obtain ⟨len, rest, rfl, hs | ⟨hl, hu⟩⟩ := exists_cons_of_isSequence h
    · exact ⟨[len], rest, (isSequence_short hs).mp h ▸ .short len hs, rfl⟩
    · obtain ⟨hn, hr⟩ := (isSequence_long hl hu).mp h
      have hf := LengthField.long len (rest.take (len.toNat - 0x80)) hl hu
        (List.length_take_of_le hn)
      rw [← Bytes.toNat_eq_ofDigits, ← hr, ← List.length_drop] at hf
      exact ⟨_, _, hf, by rw [List.cons_append, List.take_append_drop]⟩
  · rintro ⟨field, content, hf, rfl⟩
    generalize hn : content.length = n at hf
    cases hf with
    | short len h => exact (isSequence_short h).mpr hn
    | long len octets hl hu ho =>
      have hr : (octets ++ content).length - octets.length = Bytes.toNat octets := by
        rw [List.length_append, Nat.add_sub_cancel_left, hn, Bytes.toNat_eq_ofDigits]
      refine (isSequence_long hl hu).mpr ?_
      rw [List.append_eq, ← ho, List.take_left]
      exact ⟨by simp, hr⟩

theorem isSequence_of_lengthField {content : Bytes} (h : LengthField field content.length) :
    isSequence (sequence :: (field ++ content)) = true :=
  isSequence_iff.mpr ⟨field, content, h, rfl⟩

/-- **The word holds a length**, and whatever is accumulated of it on the way. -/
theorem toNat_word_front (hu : len.toNat ≤ 0x84) {front : Bytes}
    (h : front <+: rest.take (len.toNat - 0x80)) :
    front.word.toNat = front.toNat ∧ front.toNat < 2 ^ 32 := by
  have hlen : front.length ≤ 4 := by
    have := h.length_le
    rw [List.length_take] at this
    omega
  refine ⟨Bytes.toNat_word_of_length_le (by omega), ?_⟩
  calc
    front.toNat < 256 ^ front.length := front.toNat_lt
    _ ≤ 256 ^ 4 := Nat.pow_le_pow_right (by decide) hlen

/-- **The check for one SEQUENCE.** It accepts what is framed, and what is framed is framed in one
way. The word in which a length in long form is accumulated never overflows, so the check may
compare with what it holds. Contents of less than `2 ^ 32` octets are accepted behind the shortest
length and behind every other one, and there is a long form in every number of octets up to four
that is enough. What is accepted is no front of anything else that is accepted. -/
theorem isSequence_framed :
    (∀ b, isSequence b = true ↔ ∃ field content, Framed b field content) ∧
    (∀ b field content field' content', Framed b field content → Framed b field' content' →
      field = field' ∧ content = content') ∧
    (∀ (len : UInt8) (rest : Bytes), 0x81 ≤ len.toNat → len.toNat ≤ 0x84 →
      (∀ front, front <+: rest.take (len.toNat - 0x80) →
        (Bytes.word front).toNat = Bytes.toNat front ∧ Bytes.toNat front < 2 ^ 32) ∧
      (isSequence (sequence :: len :: rest) = true ↔
        len.toNat - 0x80 ≤ rest.length ∧
          rest.length - (len.toNat - 0x80) =
            (Bytes.word (rest.take (len.toNat - 0x80))).toNat)) ∧
    (∀ content : Bytes, content.length < 2 ^ 32 →
      isSequence (element sequence content) = true ∧
      (∀ field, LengthField field content.length →
        (lengthOctets content.length).length ≤ field.length ∧
          isSequence (sequence :: (field ++ content)) = true) ∧
      ∀ width, 1 ≤ width → width ≤ 4 → content.length < 256 ^ width →
        LengthField (longForm width content.length) content.length) ∧
    ∀ b c, isSequence b = true → isSequence (b ++ c) = true → c = [] := by
  refine ⟨fun b => isSequence_iff, fun b field content field' content' h h' => ?_,
    fun len rest hl hu => ⟨fun front => toNat_word_front hu, ?_⟩, fun content hc => ⟨?_, ?_, ?_⟩,
    fun b c hb hc => ?_⟩
  · rw [← List.append_nil b] at h'
    exact ⟨(h.of_append h').1, (h.of_append h').2.1⟩
  · rw [isSequence_long hl hu, (toNat_word_front hu List.prefix_rfl).1]
  · exact isSequence_of_lengthField (lengthField_lengthOctets hc)
  · exact fun field hf => ⟨hf.length_lengthOctets_le, isSequence_of_lengthField hf⟩
  · exact fun width hpos hle hn => lengthField_longForm hpos hle hn
  · obtain ⟨field, content, h⟩ := isSequence_iff.mp hb
    obtain ⟨field', content', h'⟩ := isSequence_iff.mp hc
    exact (h.of_append h').2.2

/-- One octet behind a length in two octets, where one would do. -/
theorem isSequence_framed_padded :
    let b : Bytes := [0x30, 0x82, 0x00, 0x01, 0x05]
    isSequence b = true ∧
      (∀ field content, Framed b field content → field = [0x82, 0x00, 0x01] ∧ content = [0x05]) ∧
      (Bytes.word [0x00, 0x01]).toNat = 1 ∧
      isSequence [0x30, 0x01, 0x05] = true ∧
      (lengthOctets 1).length ≤ 3 ∧
      isSequence (b ++ [0x00]) = false ∧
      isSequence [0x30, 0x82, 0x00, 0x01] = false := by
  intro b
  obtain ⟨-, hone, hword, hcontent, hfree⟩ := isSequence_framed
  obtain ⟨hshort, hfield, hwidth⟩ := hcontent [0x05] (by decide)
  have hf : LengthField [0x82, 0x00, 0x01] 1 := hwidth 2 (by decide) (by decide) (by decide)
  obtain ⟨hle, hb⟩ := hfield _ hf
  have hw := (hword 0x82 [0x00, 0x01, 0x05] (by decide) (by decide)).1 [0x00, 0x01] (by decide)
  refine ⟨hb, fun field content h => hone b _ _ _ _ h ⟨hf, rfl⟩, hw.1, hshort, hle, ?_, ?_⟩
  · exact Bool.eq_false_iff.mpr fun h => List.cons_ne_nil _ _ (hfree b [0x00] hb h)
  · exact Bool.eq_false_iff.mpr fun h => List.cons_ne_nil _ _ (hfree _ [0x05] h hb)

end Der

end SecureStream
