import SecureStream.Proofs.Pem.Writing
import SecureStream.Proofs.Text.Quoted

/-! # Bodies of sections

A body consists of characters of Base64 (`IsBody`). Spacing around it does not count
(`decode_spaced`), it fails for its padding only (`Base64.decodeFrom_error`), and a defect that
quotes it tells it from any other body of its length (`Quoting.injective`). -/

namespace SecureStream.Pem

/-! ### Spacing and bodies -/

/-- Nothing but characters of Base64. -/
def IsBody (body : Bytes) : Prop := ∀ b ∈ body, (Base64.Symbol.of? b).isSome

instance (body : Bytes) : Decidable (IsBody body) :=
  inferInstanceAs (Decidable (∀ b ∈ body, (Base64.Symbol.of? b).isSome))

theorem isBlank_of_isSpacing {b : UInt8} (h : isSpacing b = true) : Base64.isBlank b = true := by
  simp only [isSpacing, isLineEnd, Bool.or_eq_true, beq_iff_eq] at h
  rcases h with (rfl | rfl) | rfl <;> rfl

theorem plain_of_symbol {b : UInt8} (h : (Base64.Symbol.of? b).isSome) :
    b ≠ 45 ∧ isSpacing b = false := by
  constructor
  · rintro rfl
    revert h
    decide
  · rw [Bool.eq_false_iff]
    intro hs
    have := isBlank_of_isSpacing hs
    rw [Base64.isBlank_of_symbol h] at this
    cases this

theorem not_mem_spacing {s : Bytes} (hs : ∀ b ∈ s, isSpacing b = true) {c : UInt8}
    (hc : isSpacing c = false) : c ∉ s := fun hm => by
  rw [hs c hm] at hc
  cases hc

theorem IsBody.unbroken {body : Bytes} (hb : IsBody body) : Unbroken body := by
  intro b h
  have := (plain_of_symbol (hb b h)).2
  rw [isSpacing, Bool.or_eq_false_iff] at this
  exact this.1

theorem decode_spaced {x y : Bytes} (hx : ∀ b ∈ x, isSpacing b = true)
    (hy : ∀ b ∈ y, isSpacing b = true) (body : Bytes) :
    Base64.decode (x ++ body ++ y) = Base64.decode body := by
  have blank {s : Bytes} (hs : ∀ b ∈ s, isSpacing b = true) :
      s.filter (!Base64.isBlank ·) = [] := by
    rw [List.filter_eq_nil_iff]
    intro b hb
    simp [isBlank_of_isSpacing (hs b hb)]
  rw [← Base64.decode_filter (x ++ body ++ y), List.filter_append, List.filter_append, blank hx,
    blank hy, List.append_nil, List.nil_append, Base64.decode_filter]

/-! ### What can be wrong with a body -/

namespace Base64

theorem lastGroup_error {block : List Symbol} {d : Defect} (h : lastGroup block = .error d) :
    d = .invalidTrailingPadding := by
  unfold lastGroup at h
  split at h
  all_goals cases h
  rfl

theorem lastBlock_error {block : List Symbol} {d : Defect} (h : lastBlock block = .error d) :
    d = .prematurePadding ∨ d = .invalidTrailingPadding := by
  rw [lastBlock] at h
  split at h
  · split at h
    · cases h
      exact .inl rfl
    · cases hg : lastGroup (block.drop 4) with
      | error e =>
        rw [hg] at h
        cases h
        exact .inr (lastGroup_error hg)
      | ok content =>
        rw [hg] at h
        cases h
  · exact .inr (lastGroup_error h)

theorem decodeFrom_error {body : Bytes} (hb : ∀ b ∈ body, (Symbol.of? b).isSome)
    {block : List Symbol} {d : Defect} (h : decodeFrom block body = .error d) :
    d = .prematurePadding ∨ d = .invalidTrailingPadding := by
  induction body generalizing block d with
  | nil => exact lastBlock_error h
  | cons b body ih =>
    rw [List.forall_mem_cons] at hb
    obtain ⟨s, hs⟩ := Option.isSome_iff_exists.mp hb.1
    rw [decodeFrom, isBlank_of_symbol hb.1, if_neg Bool.false_ne_true, hs] at h
    dsimp only at h
    split at h
    · split at h
      · cases h
        exact .inl rfl
      · cases hr : decodeFrom [s] body with
        | error e =>
          rw [hr] at h
          cases h
          exact ih hb.2 hr
        | ok content =>
          rw [hr] at h
          cases h
    · exact ih hb.2 h

end Base64

theorem IsBody.defect_eq {a b : Bytes} (ha : IsBody a) (hb : IsBody b) {d e : Base64.Defect}
    (hd : Base64.decode a = .error d) (he : Base64.decode b = .error e)
    (h : d.message = e.message) : d = e := by
  rcases Base64.decodeFrom_error ha hd with rfl | rfl <;>
    rcases Base64.decodeFrom_error hb he with rfl | rfl
  · rfl
  · revert h
    decide
  · revert h
    decide
  · rfl

/-! ### Defects that quote -/

/-- **A defect that quotes octets**: its text has them in it, between others that are the same for
all. -/
def Quoting (defect : Bytes → Defect) : Prop :=
  ∃ opening closing front back, (∀ b ∈ front, b.toNat < 128) ∧ ∀ body,
    (defect body).message =
      opening ++ Text.quote (Text.decodeLossy (front ++ body ++ back)) ++ closing

theorem shown_of_symbol {b : UInt8} (h : (Base64.Symbol.of? b).isSome) : Text.Shown b := by
  have hascii : b.toNat < 128 := by
    by_contra hlt
    have hnone : Base64.Symbol.of? b = none := by
      unfold Base64.Symbol.of?
      repeat rw [if_neg (by omega)]
    rw [hnone] at h
    cases h
  have hescape : ∀ n < 128, (Base64.Symbol.of? (UInt8.ofNat n)).isSome →
      Text.escapeChar (Char.ofNat n) = [Char.ofNat n] := by decide +kernel
  refine ⟨hascii, hescape _ hascii ?_⟩
  rwa [UInt8.ofNat_toNat]

/-- **Such a defect tells the body.** -/
theorem Quoting.injective {defect : Bytes → Defect} (h : Quoting defect) {a b : Bytes}
    (ha : IsBody a) (hb : IsBody b) (hlen : a.length = b.length)
    (hmessage : (defect a).message = (defect b).message) : a = b := by
  obtain ⟨opening, closing, front, back, hfront, htext⟩ := h
  rw [htext, htext, String.append_left_inj, String.append_right_inj] at hmessage
  exact Text.quote_inj hfront (fun x hx => shown_of_symbol (ha x hx))
    (fun x hx => shown_of_symbol (hb x hx)) hlen hmessage

end SecureStream.Pem
