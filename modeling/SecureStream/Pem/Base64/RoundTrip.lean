import SecureStream.Pem.Base64

/-! # Reading what was written in Base64

A written text consists of groups of four digits, the last of which may be padded, and is read in
blocks of two groups. `IsFull` says that a block ends where a group does; from there
`decodeFrom_encode` goes on with any octets. Main statement: `decode_encode`.

Blanks may stand anywhere (`decode_filter`), and none is written (`symbol_of_mem_encode`). -/

namespace SecureStream.Pem.Base64

/-! ### Digits -/

theorem of?_digit {n : Nat} (h : n < 64) : Symbol.of? (digit n) = some (.six n) := by
  have : ∀ n < 64, Symbol.of? (digit n) = some (.six n) := by decide
  exact this n h

theorem isBlank_digit {n : Nat} (h : n < 64) : isBlank (digit n) = false := by
  have : ∀ n < 64, isBlank (digit n) = false := by decide
  exact this n h

theorem decodeFrom_symbol {b : UInt8} {s : Symbol} (hs : Symbol.of? b = some s)
    (hl : isBlank b = false) {block : List Symbol} (hb : block.length ≠ 8) (rest : Bytes) :
    decodeFrom block (b :: rest) = decodeFrom (block ++ [s]) rest := by
  rw [decodeFrom, hl, hs]
  simp [hb]

theorem decodeFrom_digit {n : Nat} (h : n < 64) {block : List Symbol} (hb : block.length ≠ 8)
    (rest : Bytes) : decodeFrom block (digit n :: rest) = decodeFrom (block ++ [.six n]) rest :=
  decodeFrom_symbol (of?_digit h) (isBlank_digit h) hb rest

theorem decodeFrom_digit_of_whole {n : Nat} {block : List Symbol} {rest : Bytes} (h : n < 64)
    (hb : block.length = 8) (hp : block.any Symbol.isPad = false) :
    decodeFrom block (digit n :: rest) =
      (decodeFrom [.six n] rest).map (wholeGroups block ++ ·) := by
  rw [decodeFrom, isBlank_digit h, of?_digit h]
  simp [hb, hp]

/-! ### Octets -/

theorem ofNat_eq {n : Nat} {a : UInt8} (h : n % 256 = a.toNat) : UInt8.ofNat n = a := by
  apply UInt8.toNat_inj.mp
  rw [UInt8.toNat_ofNat', h]

/-- The octets of four digits are those of the number that the digits write. -/
theorem octets_eq {p q r s : Symbol} {a b c : UInt8}
    (h : ((p.bits * 64 + q.bits) * 64 + r.bits) * 64 + s.bits =
      a.toNat * 65536 + b.toNat * 256 + c.toNat) : octets p q r s = [a, b, c] := by
  have ha := a.toNat_lt
  have hb := b.toNat_lt
  have hc := c.toNat_lt
  rw [octets, h, ofNat_eq (a := a) (by omega), ofNat_eq (a := b) (by omega),
    ofNat_eq (a := c) (by omega)]

/-! ### Blocks -/

/-- A block that a whole number of groups fills, without padding. -/
def IsFull (block : List Symbol) : Prop :=
  block.any Symbol.isPad = false ∧ (block.length = 0 ∨ block.length = 4 ∨ block.length = 8)

theorem IsFull.length_of_ne {block : List Symbol} (h : IsFull block) (hb : block.length ≠ 8) :
    block.length = 0 ∨ block.length = 4 := by
  obtain ⟨-, h | h | h⟩ := h
  · exact Or.inl h
  · exact Or.inr h
  · exact absurd h hb

theorem IsFull.append_group {block : List Symbol} (h : IsFull block) (hb : block.length ≠ 8)
    (p q r s : Nat) : IsFull (block ++ [.six p, .six q, .six r, .six s]) := by
  obtain ⟨hp, hl⟩ := h
  constructor
  · rw [List.any_append, hp]
    rfl
  · rw [List.length_append, List.length_cons, List.length_cons, List.length_cons,
      List.length_singleton]
    omega

theorem wholeGroups_append {block : List Symbol} (h : block.length = 0 ∨ block.length = 4)
    (a b c d : Symbol) :
    wholeGroups (block ++ [a, b, c, d]) = wholeGroups block ++ octets a b c d := by
  rcases h with h | h
  · rw [List.length_eq_zero_iff.mp h]
    simp [wholeGroups]
  · match block, h with
    | [w, x, y, z], _ => simp [wholeGroups]

theorem decodeFrom_group {p q r s : Nat} (hp : p < 64) (hq : q < 64) (hr : r < 64) (hs : s < 64)
    {block : List Symbol} (hb : block.length = 0 ∨ block.length = 4) (rest : Bytes) :
    decodeFrom block (digit p :: digit q :: digit r :: digit s :: rest) =
      decodeFrom (block ++ [.six p, .six q, .six r, .six s]) rest := by
  rw [decodeFrom_digit hp (by omega), decodeFrom_digit hq (by simp; omega),
    decodeFrom_digit hr (by simp; omega), decodeFrom_digit hs (by simp; omega)]
  simp

theorem lastBlock_full {block : List Symbol} (h : IsFull block) :
    lastBlock block = .ok (wholeGroups block) := by
  obtain ⟨hp, h | h | h⟩ := h
  · rw [List.length_eq_zero_iff.mp h]; rfl
  · match block, h with
    | [w, x, y, z], _ =>
      cases w <;> cases x <;> cases y <;> cases z <;>
        simp_all [Symbol.isPad, lastBlock, lastGroup, wholeGroups]
  · match block, h with
    | [w, x, y, z, w', x', y', z'], _ =>
      cases w' <;> cases x' <;> cases y' <;> cases z' <;>
        simp_all [Symbol.isPad, lastBlock, lastGroup, wholeGroups, Except.map]

theorem lastBlock_append {block : List Symbol} (h : IsFull block) (hb : block.length ≠ 8)
    {g : List Symbol} (hg : g ≠ []) (hl : g.length ≤ 4) :
    lastBlock (block ++ g) = (lastGroup g).map (wholeGroups block ++ ·) := by
  obtain ⟨hp, h | h | h⟩ := h
  · rw [List.length_eq_zero_iff.mp h]
    simp only [List.nil_append, lastBlock, if_neg (Nat.not_lt.mpr hl), wholeGroups]
    cases lastGroup g <;> rfl
  · have : 0 < g.length := List.length_pos_iff.mpr hg
    rw [lastBlock, if_pos (by simp; omega), List.take_left' h, List.drop_left' h, hp]
    rfl
  · exact absurd h hb

theorem decodeFrom_pads {p q : Nat} {last : UInt8} {s : Symbol} (hp : p < 64) (hq : q < 64)
    (hs : Symbol.of? last = some s) (hl : isBlank last = false) {block : List Symbol}
    (h : IsFull block) (hb : block.length ≠ 8) :
    decodeFrom block [digit p, digit q, last, 61] =
      (lastGroup [.six p, .six q, s, .pad]).map (wholeGroups block ++ ·) := by
  have hlen := h.length_of_ne hb
  rw [decodeFrom_digit hp hb, decodeFrom_digit hq (by simp; omega),
    decodeFrom_symbol hs hl (by simp; omega),
    decodeFrom_symbol (s := .pad) (by decide) (by decide) (by simp; omega), decodeFrom]
  simpa using lastBlock_append h hb (g := [.six p, .six q, s, .pad]) (by simp) (by simp)

/-! ### Groups -/

theorem encode_one (a : UInt8) :
    ∃ n < 16777216, n = a.toNat * 65536 ∧
      encode [a] = [digit (n / 262144), digit (n / 4096 % 64), 61, 61] := by
  have ha := a.toNat_lt
  refine ⟨a.toNat * 65536, by omega, rfl, ?_⟩
  rw [encode]

theorem encode_two (a b : UInt8) :
    ∃ n < 16777216, n = a.toNat * 65536 + b.toNat * 256 ∧
      encode [a, b] = [digit (n / 262144), digit (n / 4096 % 64), digit (n / 64 % 64), 61] := by
  have ha := a.toNat_lt
  have hb := b.toNat_lt
  refine ⟨a.toNat * 65536 + b.toNat * 256, by omega, rfl, ?_⟩
  rw [encode]

theorem encode_three (a b c : UInt8) (rest : Bytes) :
    ∃ n < 16777216, n = a.toNat * 65536 + b.toNat * 256 + c.toNat ∧
      encode (a :: b :: c :: rest) = digit (n / 262144) :: digit (n / 4096 % 64) ::
        digit (n / 64 % 64) :: digit (n % 64) :: encode rest := by
  have ha := a.toNat_lt
  have hb := b.toNat_lt
  have hc := c.toNat_lt
  refine ⟨a.toNat * 65536 + b.toNat * 256 + c.toNat, by omega, rfl, ?_⟩
  rw [encode]

theorem digits_sum (n : Nat) :
    ((n / 262144 * 64 + n / 4096 % 64) * 64 + n / 64 % 64) * 64 + n % 64 = n := by
  omega

theorem encode_cons (a : UInt8) (rest : Bytes) :
    ∃ n < 64, ∃ tail, encode (a :: rest) = digit n :: tail := by
  have ha := a.toNat_lt
  match rest with
  | [] => exact ⟨_, by omega, _, rfl⟩
  | [b] =>
    have hb := b.toNat_lt
    exact ⟨_, by omega, _, rfl⟩
  | b :: c :: rest =>
    obtain ⟨n, hn, -, he⟩ := encode_three a b c rest
    exact ⟨_, by omega, _, he⟩

theorem decodeFrom_whole {block : List Symbol} (h : IsFull block) (hb : block.length = 8)
    (b : Bytes) :
    decodeFrom block (encode b) = (decodeFrom [] (encode b)).map (wholeGroups block ++ ·) := by
  cases b with
  | nil =>
    rw [encode, decodeFrom, lastBlock_full h]
    simp [decodeFrom, lastBlock, lastGroup, Except.map]
  | cons a rest =>
    obtain ⟨n, hn, tail, he⟩ := encode_cons a rest
    rw [he, decodeFrom_digit_of_whole hn hb h.1, decodeFrom_digit hn (by simp)]
    rfl

/-- **What was written is read back**, also after whole groups. -/
theorem decodeFrom_encode {block : List Symbol} (h : IsFull block) (hb : block.length ≠ 8)
    (b : Bytes) : decodeFrom block (encode b) = .ok (wholeGroups block ++ b) := by
  have hlen := h.length_of_ne hb
  match b with
  | [] => rw [encode, decodeFrom, lastBlock_full h, List.append_nil]
  | [a] =>
    obtain ⟨n, hn, heq, he⟩ := encode_one a
    rw [he, decodeFrom_pads (s := .pad) (by omega) (by omega) (by decide) (by decide) h hb,
      lastGroup, octets_eq (a := a) (b := 0) (c := 0)
        (by simp only [Symbol.bits, UInt8.toNat_zero]; omega)]
    rfl
  | [a, b] =>
    obtain ⟨n, hn, heq, he⟩ := encode_two a b
    have hr : n / 64 % 64 < 64 := Nat.mod_lt _ (by decide)
    rw [he, decodeFrom_pads (by omega) (by omega) (of?_digit hr) (isBlank_digit hr) h hb,
      lastGroup, octets_eq (a := a) (b := b) (c := 0)
        (by simp only [Symbol.bits, UInt8.toNat_zero]; omega)]
    rfl
  | a :: b :: c :: rest =>
    obtain ⟨n, hn, heq, he⟩ := encode_three a b c rest
    have hp : n / 262144 < 64 := by omega
    have hq : n / 4096 % 64 < 64 := Nat.mod_lt _ (by decide)
    have hr : n / 64 % 64 < 64 := Nat.mod_lt _ (by decide)
    have hs : n % 64 < 64 := Nat.mod_lt _ (by decide)
    have hf := h.append_group hb (n / 262144) (n / 4096 % 64) (n / 64 % 64) (n % 64)
    have hw := wholeGroups_append hlen (.six (n / 262144)) (.six (n / 4096 % 64))
      (.six (n / 64 % 64)) (.six (n % 64))
    rw [octets_eq (a := a) (b := b) (c := c)
      (by simp only [Symbol.bits]; rw [digits_sum, heq])] at hw
    rw [he, decodeFrom_group hp hq hr hs hlen]
    rcases hlen with hz | hz
    · rw [decodeFrom_encode hf (by simp; omega), hw]
      simp
    · rw [decodeFrom_whole hf (by simp; omega), decodeFrom_encode ⟨rfl, Or.inl rfl⟩ (by simp),
        Except.map, hw]
      simp [wholeGroups]
termination_by b.length

/-- **What was written is read back.** -/
theorem decode_encode (b : Bytes) : decode (encode b) = .ok b :=
  decodeFrom_encode (show IsFull [] from ⟨rfl, Or.inl rfl⟩) (by simp) b

/-! ### Blanks -/

theorem decodeFrom_filter (block : List Symbol) (b : Bytes) :
    decodeFrom block (b.filter (!isBlank ·)) = decodeFrom block b := by
  induction b generalizing block with
  | nil => rfl
  | cons x rest ih =>
    cases hx : isBlank x with
    | true =>
      rw [List.filter_cons_of_neg (by simp [hx]), ih, decodeFrom, if_pos hx]
    | false =>
      rw [List.filter_cons_of_pos (by simp [hx]), decodeFrom, decodeFrom, hx]
      simp only [Bool.false_eq_true, if_false, ih]

/-- **Blanks do not matter.** -/
theorem decode_filter (b : Bytes) : decode (b.filter (!isBlank ·)) = decode b :=
  decodeFrom_filter [] b

theorem isBlank_of_symbol {b : UInt8} (h : (Symbol.of? b).isSome) : isBlank b = false := by
  rw [Bool.eq_false_iff]
  intro hb
  have hn : b.toNat = 32 ∨ 9 ≤ b.toNat ∧ b.toNat ≤ 13 := by
    simpa [isBlank, UInt8.le_iff_toNat_le, ← UInt8.toNat_inj] using hb
  have hnone : Symbol.of? b = none := by
    unfold Symbol.of?
    repeat rw [if_neg (by omega)]
  rw [hnone] at h
  cases h

theorem symbol_of_mem_encode {b : Bytes} {x : UInt8} (h : x ∈ encode b) :
    (Symbol.of? x).isSome := by
  have digit_isSome {n : Nat} (hn : n < 64) : (Symbol.of? (digit n)).isSome := by
    rw [of?_digit hn]
    rfl
  match b with
  | [] => simp [encode] at h
  | [a] =>
    obtain ⟨n, hn, -, he⟩ := encode_one a
    simp only [he, List.mem_cons, List.not_mem_nil, or_false] at h
    rcases h with rfl | rfl | rfl | rfl
    · exact digit_isSome (by omega)
    · exact digit_isSome (by omega)
    · decide
    · decide
  | [a, c] =>
    obtain ⟨n, hn, -, he⟩ := encode_two a c
    simp only [he, List.mem_cons, List.not_mem_nil, or_false] at h
    rcases h with rfl | rfl | rfl | rfl
    · exact digit_isSome (by omega)
    · exact digit_isSome (by omega)
    · exact digit_isSome (by omega)
    · decide
  | a :: c :: d :: rest =>
    obtain ⟨n, hn, -, he⟩ := encode_three a c d rest
    simp only [he, List.mem_cons] at h
    rcases h with rfl | rfl | rfl | rfl | h
    · exact digit_isSome (by omega)
    · exact digit_isSome (by omega)
    · exact digit_isSome (by omega)
    · exact digit_isSome (by omega)
    · exact symbol_of_mem_encode h
termination_by b.length

end SecureStream.Pem.Base64
