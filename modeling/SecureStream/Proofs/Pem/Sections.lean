import SecureStream.Proofs.Pem.Layout

/-! # The sections of a document

* `sections_append`: octets behind a document take no section away, whether they are malformed or
  go on with its last line.
* `length_content_lt`: what a section holds is shorter than its document. -/

namespace SecureStream.Pem

variable {o o' : Open} {line : Bytes} {found : List Section}

/-! ### Longer documents -/

theorem isEnd_append {label : Bytes} (h : isEnd label line = true) (t : Bytes) :
    isEnd label (line ++ t) = true := by
  rw [isEnd, List.isPrefixOf_iff_prefix] at h ⊢
  exact h.trans (List.prefix_append line t)

theorem not_beginning_of_isEnd {label : Bytes} (h : isEnd label line = true) :
    ¬beginning <+: line := by
  rw [isEnd, List.isPrefixOf_iff_prefix] at h
  obtain ⟨t, rfl⟩ := h
  rw [List.append_assoc, List.append_assoc]
  exact not_beginning_of_ending _

theorem LineRead.append (h : LineRead o line found o') (hne : found ≠ []) (t : Bytes) :
    LineRead o (line ++ t) found none := by
  cases h with
  | text _ => exact absurd rfl hne
  | opens _ _ => exact absurd rfl hne
  | body _ _ => exact absurd rfl hne
  | skips _ _ _ => exact absurd rfl hne
  | keeps _ he hk hd =>
    have he := isEnd_append he t
    exact .keeps (not_beginning_of_isEnd he) he hk hd

theorem sections_last_append (o : Open) (line t : Bytes) (more : List Bytes) :
    (readLines o [line]).sections <+: (readLines o ((line ++ t) :: more)).sections := by
  rcases read_or_fails o line with ⟨found, o', h⟩ | ⟨defect, h⟩
  · have hlast : (readLines o [line]).sections = found := by
      rw [h.readLines_cons]
      cases o' <;> simp [readLines, Document.prepend]
    rw [hlast]
    by_cases hne : found = []
    · rw [hne]
      exact List.nil_prefix
    · rw [(h.append hne t).readLines_cons]
      exact List.prefix_append found _
  · rw [h.readLines_cons]
    exact List.nil_prefix

theorem sections_cons_prefix {ls ms : List Bytes}
    (h : ∀ o, (readLines o ls).sections <+: (readLines o ms).sections) (front : List Bytes)
    (o : Open) : (readLines o (front ++ ls)).sections <+: (readLines o (front ++ ms)).sections := by
  induction front generalizing o with
  | nil => exact h o
  | cons line front ih =>
    rw [List.cons_append, List.cons_append]
    rcases read_or_fails o line with ⟨found, o', hr⟩ | ⟨defect, hf⟩
    · rw [hr.readLines_cons, hr.readLines_cons]
      exact (List.prefix_append_right_inj found).mpr (ih o')
    · have hnone : (readLines o (line :: (front ++ ls))).sections = [] := by
        rw [hf.readLines_cons]
      rw [hnone]
      exact List.nil_prefix

/-- **A longer document has the same sections first.** -/
theorem sections_append (document t : Bytes) :
    (read document).sections <+: (read (document ++ t)).sections := by
  -- The lines of `y` stay as they are; `z` is a last line without an end, which may go on.
  obtain ⟨y, z, rfl, hy, hz⟩ := exists_last_line document
  have hfront (x : Bytes) : lines (y ++ x) = lines y ++ lines x := by
    rcases hy with rfl | hy
    · rfl
    · exact lines_append_of_endsLine hy x
  rw [read, read, List.append_assoc, hfront, hfront]
  refine sections_cons_prefix (fun o => ?_) _ none
  by_cases hne : z = []
  · have hnil : (readLines o (lines z)).sections = [] := by
      rw [hne]
      cases o <;> rfl
    rw [hnil]
    exact List.nil_prefix
  · obtain ⟨t', u, -, hlast⟩ := lines_first hz hne t
    rw [lines_of_unbroken hz hne, hlast]
    exact sections_last_append o z t' _

/-! ### What sections hold -/

namespace Base64

theorem length_wholeGroups (block : List Symbol) : (wholeGroups block).length ≤ block.length := by
  fun_induction wholeGroups block with
  | case1 a b c d rest ih =>
    simp only [octets, List.cons_append, List.nil_append, List.length_cons]
    omega
  | case2 => exact Nat.zero_le _

theorem length_lastGroup {block : List Symbol} {c : Bytes} (h : lastGroup block = .ok c) :
    c.length ≤ block.length := by
  unfold lastGroup at h
  split at h <;> cases h <;> simp [octets]

theorem length_lastBlock {block : List Symbol} {c : Bytes} (h : lastBlock block = .ok c) :
    c.length ≤ block.length := by
  unfold lastBlock at h
  split at h
  · split at h
    · cases h
    · cases hl : lastGroup (block.drop 4) with
      | error e =>
        rw [hl] at h
        cases h
      | ok last =>
        rw [hl] at h
        cases h
        have hfirst := length_wholeGroups (block.take 4)
        have hlast := length_lastGroup hl
        simp only [List.length_append, List.length_take, List.length_drop] at *
        omega
  · exact length_lastGroup h

theorem length_decodeFrom {block : List Symbol} {b c : Bytes} (h : decodeFrom block b = .ok c) :
    c.length ≤ block.length + b.length := by
  fun_induction decodeFrom block b generalizing c with
  | case1 block => exact length_lastBlock h
  | case2 block b rest hb ih =>
    have := ih h
    rw [List.length_cons]
    omega
  | case3 block b rest hb hs => cases h
  | case4 block b rest hb s hs hl hp => cases h
  | case5 block b rest hb s hs hl hp ih =>
    cases hr : decodeFrom [s] rest with
    | error e =>
      rw [hr] at h
      cases h
    | ok last =>
      rw [hr] at h
      cases h
      have hfirst := length_wholeGroups block
      have hlast := ih hr
      simp only [List.length_append, List.length_cons, List.length_nil] at *
      omega
  | case6 block b rest hb s hs hl ih =>
    have := ih h
    simp only [List.length_append, List.length_cons, List.length_nil] at *
    omega

/-- **An encoding is no shorter than what it stands for.** -/
theorem length_decode {b c : Bytes} (h : decode b = .ok c) : c.length ≤ b.length := by
  have := length_decodeFrom h
  rwa [List.length_nil, Nat.zero_add] at this

end Base64

/-- How much an open section has collected. -/
def Open.size : Open → ℕ
  | none => 0
  | some (_, body) => body.flatten.length

/-- **Nothing is held that was not collected**, and a last line is not collected. -/
theorem LineRead.size_le (h : LineRead o line found o') :
    (∀ s ∈ found, s.content.length < o.size + line.length) ∧ o'.size ≤ o.size + line.length := by
  cases h with
  | text _ => exact ⟨by simp, Nat.zero_le _⟩
  | opens _ _ =>
    refine ⟨by simp, ?_⟩
    cases o <;> simp [Open.size]
  | body _ _ =>
    refine ⟨by simp, ?_⟩
    simp only [Open.size, List.flatten_cons, List.length_append]
    omega
  | skips _ _ _ => exact ⟨by simp, Nat.zero_le _⟩
  | @keeps label body _ kind content _ he _ hd =>
    refine ⟨fun s hs => ?_, Nat.zero_le _⟩
    obtain rfl := List.mem_singleton.mp hs
    have hcontent := Base64.length_decode hd
    have hbody : body.reverse.flatten.length = body.flatten.length := by
      simp [List.length_flatten, List.sum_reverse]
    have hline : 0 < line.length := by
      rw [isEnd, List.isPrefixOf_iff_prefix] at he
      refine Nat.lt_of_lt_of_le ?_ he.length_le
      have : ending.length = 9 := by decide
      simp only [List.length_append, this]
      omega
    rw [hbody] at hcontent
    dsimp only [Open.size]
    omega

theorem length_content_lt_of_lines {ls : List Bytes} {s : Section}
    (h : s ∈ (readLines o ls).sections) : s.content.length < o.size + ls.flatten.length := by
  induction ls generalizing o with
  | nil => cases o <;> cases h
  | cons line ls ih =>
    rw [List.flatten_cons, List.length_append]
    rcases read_or_fails o line with ⟨found, o', hr⟩ | ⟨defect, hf⟩
    · rw [hr.readLines_cons] at h
      obtain ⟨hfound, hsize⟩ := hr.size_le
      rcases List.mem_append.mp h with h | h
      · have := hfound s h
        omega
      · have := ih h
        omega
    · rw [hf.readLines_cons] at h
      cases h

/-- **What a section holds is shorter than the document.** -/
theorem length_content_lt {document : Bytes} {s : Section} (h : s ∈ (read document).sections) :
    s.content.length < document.length := by
  have := length_content_lt_of_lines h
  rwa [flatten_lines, Open.size, Nat.zero_add] at this

end SecureStream.Pem
