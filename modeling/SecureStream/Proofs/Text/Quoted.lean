import SecureStream.Text.Utf8
import SecureStream.Text.Quoted

/-! # Octets in quoted text

Octets of ASCII are read as one character each, wherever they stand, and characters without an
escape are quoted as they are. Two texts that differ in such octets only have different quotes
(`quote_inj`). -/

namespace SecureStream.Text

/-- The character of an octet of ASCII. -/
def asciiChar (b : UInt8) : Char := Char.ofNat b.toNat

/-- **An octet that a quote shows as it is.** -/
structure Shown (b : UInt8) : Prop where
  ascii : b.toNat < 128
  escape : escapeChar (asciiChar b) = [asciiChar b]

theorem decodeFrom_ascii {front : Bytes} (h : ∀ b ∈ front, b.toNat < 128) (back : Bytes) :
    decodeFrom none (front ++ back) = front.map asciiChar ++ decodeFrom none back := by
  induction front with
  | nil => rfl
  | cons b front ih =>
    rw [List.forall_mem_cons] at h
    rw [List.cons_append, decodeFrom, if_pos h.1, ih h.2]
    rfl

theorem flatMap_escapeChar {b : Bytes} (h : ∀ x ∈ b, Shown x) :
    (b.map asciiChar).flatMap escapeChar = b.map asciiChar := by
  induction b with
  | nil => rfl
  | cons x b ih =>
    rw [List.forall_mem_cons] at h
    rw [List.map_cons, List.flatMap_cons, h.1.escape, ih h.2]
    rfl

theorem asciiChar_inj {a b : UInt8} (ha : a.toNat < 128) (hb : b.toNat < 128)
    (h : asciiChar a = asciiChar b) : a = b := by
  have toNat_asciiChar {x : UInt8} (hx : x.toNat < 128) : (asciiChar x).toNat = x.toNat := by
    have : ∀ n < 128, (Char.ofNat n).toNat = n := by decide
    exact this _ hx
  have := congrArg Char.toNat h
  rw [toNat_asciiChar ha, toNat_asciiChar hb] at this
  exact UInt8.toNat_inj.mp this

theorem map_asciiChar_inj {a b : Bytes} (ha : ∀ x ∈ a, Shown x) (hb : ∀ x ∈ b, Shown x)
    (h : a.map asciiChar = b.map asciiChar) : a = b := by
  induction a generalizing b with
  | nil => exact (List.map_eq_nil_iff.mp h.symm).symm
  | cons x a ih =>
    cases b with
    | nil => cases h
    | cons y b =>
      rw [List.forall_mem_cons] at ha hb
      obtain ⟨hxy, hab⟩ := List.cons.inj h
      rw [asciiChar_inj ha.1.ascii hb.1.ascii hxy, ih ha.2 hb.2 hab]

theorem toList_quote {front body : Bytes} (hf : ∀ b ∈ front, b.toNat < 128)
    (hb : ∀ b ∈ body, Shown b) (back : Bytes) :
    (quote (decodeLossy (front ++ body ++ back))).toList =
      '"' :: ((front.map asciiChar).flatMap escapeChar ++ (body.map asciiChar ++
        ((decodeFrom none back).flatMap escapeChar ++ ['"']))) := by
  rw [quote, String.toList_ofList, decodeLossy, String.toList_ofList, List.append_assoc,
    decodeFrom_ascii hf, decodeFrom_ascii fun b h => (hb b h).ascii]
  simp only [List.flatMap_append, flatMap_escapeChar hb, List.append_assoc]

/-- **A quote tells the octets that it shows.** -/
theorem quote_inj {front back a b : Bytes} (hf : ∀ x ∈ front, x.toNat < 128)
    (ha : ∀ x ∈ a, Shown x) (hb : ∀ x ∈ b, Shown x) (hlen : a.length = b.length)
    (h : quote (decodeLossy (front ++ a ++ back)) = quote (decodeLossy (front ++ b ++ back))) :
    a = b := by
  have hlist := congrArg String.toList h
  rw [toList_quote hf ha, toList_quote hf hb] at hlist
  have htail := List.append_cancel_left (List.cons.inj hlist).2
  exact map_asciiChar_inj ha hb (List.append_inj_left htail (by simp [hlen]))

end SecureStream.Text
