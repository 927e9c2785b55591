import SecureStream.Proofs.Pem.Body

/-! # One section in any layout

A section of a known kind whose body is set apart from its boundaries by any spacing or none
(`Layout`). How it is read depends on where lines end:

* `read_of_decoded`, `read_of_undecoded`: the boundaries have lines of their own.
* `read_of_trailing`: the body shares a line with the last boundary only. The section has no end.
* `read_of_unbroken`: the body shares a line with the first boundary. The defect tells the body.

So two bodies can be told apart by their defects in some layouts and not in others
(`Layout.exists_defects`). -/

namespace SecureStream.Pem

/-! ### Lines of a text in pieces -/

/-- The end of a text is the end of a line. -/
def EndsLine (b : Bytes) : Prop := ∃ t e, isLineEnd e = true ∧ b = t ++ [e]

theorem unbroken_append {a b : Bytes} : Unbroken (a ++ b) ↔ Unbroken a ∧ Unbroken b :=
  List.forall_mem_append

theorem lines_ne_nil {b : Bytes} (h : b ≠ []) : lines b ≠ [] := by
  intro hl
  have := flatten_lines b
  rw [hl] at this
  exact h this.symm

theorem EndsLine.of_append {a b : Bytes} (h : EndsLine (a ++ b)) (hb : b ≠ []) : EndsLine b := by
  obtain ⟨t, e, he, ht⟩ := h
  rcases List.eq_nil_or_concat b with rfl | ⟨b', c, rfl⟩
  · exact absurd rfl hb
  · rw [List.concat_eq_append, ← List.append_assoc] at ht
    obtain ⟨-, hc⟩ := List.append_inj' ht rfl
    obtain rfl := List.singleton_inj.mp hc
    exact ⟨b', c, he, List.concat_eq_append⟩

theorem EndsLine.not_unbroken {b : Bytes} (h : EndsLine b) : ¬Unbroken b := by
  obtain ⟨t, e, he, rfl⟩ := h
  intro hu
  rw [hu e (by simp)] at he
  cases he

theorem lines_append_of_endsLine {x : Bytes} (h : EndsLine x) (y : Bytes) :
    lines (x ++ y) = lines x ++ lines y := by
  obtain ⟨t, e, he, rfl⟩ := h
  have he' : e = 10 ∨ e = 13 := by simpa [isLineEnd] using he
  induction t with
  | nil => simp [lines, he']
  | cons c t ih =>
    rw [List.cons_append, List.cons_append, lines, lines, ih]
    split
    · rfl
    · cases hl : lines (t ++ [e]) with
      | nil => exact absurd hl (lines_ne_nil (by simp))
      | cons l ls => rfl

theorem unbroken_or_split (s : Bytes) :
    Unbroken s ∨ ∃ x e y, s = x ++ e :: y ∧ Unbroken x ∧ isLineEnd e = true := by
  induction s with
  | nil => exact .inl (by simp [Unbroken])
  | cons b s ih =>
    cases hb : isLineEnd b with
    | true => exact .inr ⟨[], b, s, rfl, by simp [Unbroken], hb⟩
    | false =>
      rcases ih with h | ⟨x, e, y, rfl, hx, he⟩
      · exact .inl (unbroken_cons.mpr ⟨hb, h⟩)
      · exact .inr ⟨b :: x, e, y, rfl, unbroken_cons.mpr ⟨hb, hx⟩, he⟩

theorem exists_last_line (s : Bytes) :
    ∃ y z, s = y ++ z ∧ (y = [] ∨ EndsLine y) ∧ Unbroken z := by
  induction s with
  | nil => exact ⟨[], [], rfl, .inl rfl, by simp [Unbroken]⟩
  | cons b s ih =>
    obtain ⟨y, z, rfl, rfl | ⟨t, e, he, rfl⟩, hz⟩ := ih
    · cases hb : isLineEnd b with
      | true => exact ⟨[b], z, rfl, .inr ⟨[], b, hb, rfl⟩, hz⟩
      | false => exact ⟨[], b :: z, rfl, .inl rfl, unbroken_cons.mpr ⟨hb, hz⟩⟩
    · exact ⟨b :: (t ++ [e]), z, rfl, .inr ⟨b :: t, e, he, rfl⟩, hz⟩

theorem lines_first {p : Bytes} (hp : Unbroken p) (hne : p ≠ []) (s : Bytes) :
    ∃ t u, s = t ++ u ∧ lines (p ++ s) = (p ++ t) :: lines u := by
  rcases unbroken_or_split s with hs | ⟨x, e, y, rfl, hx, he⟩
  · refine ⟨s, [], by simp, ?_⟩
    rw [lines_of_unbroken (unbroken_append.mpr ⟨hp, hs⟩) (by simp [hne])]
    rfl
  · refine ⟨x ++ [e], y, by simp, ?_⟩
    rw [← List.append_assoc, lines_append (unbroken_append.mpr ⟨hp, hx⟩) he, List.append_assoc]

theorem Raw.refl (ls : List Bytes) : Raw ls ls := by
  induction ls with
  | nil => exact .nil
  | cons l ls ih =>
    have := Raw.line (l := l) (e := []) (by simp) ih
    rwa [List.append_nil] at this

theorem linesRead_of_no_dash {x : Bytes} (h : 45 ∉ x) (label : Bytes) (body : List Bytes) :
    LinesRead (some (label, body)) (lines x) [] (some (label, (lines x).reverse ++ body)) := by
  refine linesRead_body (.refl _) (fun l hl hh => h ?_) label body
  rw [← flatten_lines x]
  exact List.mem_flatten_of_mem hl (List.mem_of_mem_head? hh)

/-! ### Layouts -/

/-- **How a section is laid out**: its kind, what stands between its first line and its body,
between its body and its last line, and behind that. -/
structure Layout where
  kind : Label
  before : Bytes
  after : Bytes
  rest : Bytes
  spacing : ∀ b ∈ before ++ after ++ rest, isSpacing b = true

namespace Layout

variable (l : Layout) {body : Bytes}

/-- The label in octets. -/
def label : Bytes := Bytes.ofText l.kind.text

/-- The boundary in front of the body, with what separates them. -/
def head : Bytes := beginning ++ l.label ++ dashes ++ l.before

/-- The boundary behind the body. -/
def last : Bytes := ending ++ l.label ++ dashes

/-- **The document with a body in it.** -/
def document (body : Bytes) : Bytes := l.head ++ body ++ l.after ++ l.last ++ l.rest

theorem document_eq (body : Bytes) :
    l.document body = l.head ++ (body ++ l.after ++ (l.last ++ l.rest)) := by
  simp [document]

theorem spacing_before {b : UInt8} (h : b ∈ l.before) : isSpacing b = true :=
  l.spacing b (by simp [h])

theorem spacing_after {b : UInt8} (h : b ∈ l.after) : isSpacing b = true :=
  l.spacing b (by simp [h])

theorem spacing_rest {b : UInt8} (h : b ∈ l.rest) : isSpacing b = true :=
  l.spacing b (by simp [h])

theorem isLabel : IsLabel l.label ∧ l.label ≠ [] := by
  refine ⟨isLabel_text l.kind, ?_⟩
  rw [label]
  cases l.kind <;> decide

theorem unbroken_dashes : Unbroken dashes := by decide +kernel

theorem unbroken_ending : Unbroken ending := by decide +kernel

theorem unbroken_last : Unbroken l.last :=
  unbroken_append.mpr ⟨unbroken_append.mpr ⟨unbroken_ending, l.isLabel.1.unbroken⟩, unbroken_dashes⟩

theorem unbroken_head (h : Unbroken l.before) : Unbroken l.head :=
  unbroken_append.mpr ⟨unbroken_append.mpr ⟨unbroken_append.mpr
    ⟨unbroken_beginning, l.isLabel.1.unbroken⟩, unbroken_dashes⟩, h⟩

theorem last_ne_nil : l.last ≠ [] := by
  rw [last, List.append_assoc]
  exact List.append_ne_nil_of_left_ne_nil (by decide) _

theorem ofBytes?_label : Label.ofBytes? l.label = some l.kind := ofBytes?_text l.kind

theorem dash_not_mem {y : Bytes} (hy : ∀ b ∈ y, isSpacing b = true) (hb : IsBody body) :
    45 ∉ y ++ body ++ l.after := by
  simp only [List.mem_append, not_or]
  exact ⟨⟨not_mem_spacing hy rfl, fun hm => (plain_of_symbol (hb _ hm)).1 rfl⟩,
    not_mem_spacing (fun _ => l.spacing_after) rfl⟩

/-! ### The first boundary on a line of its own -/

theorem exists_opening (h : ¬Unbroken l.before) :
    ∃ line y, (∀ b ∈ y, isSpacing b = true) ∧ LineRead none line [] (some (l.label, [])) ∧
      ∀ s, lines (l.head ++ s) = line :: lines (y ++ s) := by
  obtain ⟨x, e, y, hsplit, hx, he⟩ := (unbroken_or_split l.before).resolve_left h
  have hspacing : ∀ b ∈ x ++ [e], isSpacing b = true := fun b hb =>
    l.spacing_before (by rw [hsplit]; simp at hb ⊢; tauto)
  refine ⟨beginning ++ l.label ++ dashes ++ (x ++ [e]), y,
    fun b hb => l.spacing_before (by simp [hsplit, hb]),
    .opens ⟨l.label ++ dashes ++ (x ++ [e]), by simp⟩ (labelOf?_written l.isLabel.1 hspacing),
    fun s => ?_⟩
  have hhead : l.head ++ s = beginning ++ l.label ++ dashes ++ x ++ e :: (y ++ s) := by
    simp [head, hsplit]
  have hfirst : Unbroken (beginning ++ l.label ++ dashes ++ x) :=
    unbroken_append.mpr ⟨unbroken_append.mpr ⟨unbroken_append.mpr
      ⟨unbroken_beginning, l.isLabel.1.unbroken⟩, unbroken_dashes⟩, hx⟩
  rw [hhead, lines_append hfirst he, List.append_assoc]

theorem exists_closing (hb : IsBody body) (hbefore : ¬Unbroken l.before)
    (hafter : EndsLine l.after) :
    ∃ ls raw line more, lines (l.document body) = ls ++ line :: more ∧
      LinesRead none ls [] (some (l.label, raw)) ∧ ¬beginning <+: line ∧
      isEnd l.label line = true ∧
      Base64.decode raw.reverse.flatten = Base64.decode body := by
  obtain ⟨first, y, hy, hopens, hlines⟩ := l.exists_opening hbefore
  obtain ⟨t, u, -, hlast⟩ := lines_first l.unbroken_last l.last_ne_nil l.rest
  have hends : EndsLine (y ++ body ++ l.after) := by
    obtain ⟨a, e, he, ha⟩ := hafter
    exact ⟨y ++ body ++ a, e, he, by rw [ha, ← List.append_assoc]⟩
  have hdash := l.dash_not_mem hy hb
  refine ⟨first :: lines (y ++ body ++ l.after), _, l.last ++ t, lines u, ?_,
    .cons hopens (linesRead_of_no_dash hdash l.label []), ?_, ?_, ?_⟩
  · have hparts : y ++ (body ++ l.after ++ (l.last ++ l.rest)) =
        y ++ body ++ l.after ++ (l.last ++ l.rest) := by simp
    rw [document_eq, hlines, hparts, lines_append_of_endsLine hends, hlast]
    rfl
  · rw [last, List.append_assoc, List.append_assoc]
    exact not_beginning_of_ending _
  · exact isEnd_written l.label t
  · rw [List.append_nil, List.reverse_reverse, flatten_lines,
      decode_spaced hy (fun b hb => l.spacing_after hb)]

theorem read_of_decoded (hb : IsBody body) (hbefore : ¬Unbroken l.before)
    (hafter : EndsLine l.after) {content : Bytes} (hd : Base64.decode body = .ok content) :
    ∃ more defect, read (l.document body) = ⟨⟨l.kind, content⟩ :: more, defect⟩ := by
  obtain ⟨ls, raw, line, more, hlines, hread, hnb, hend, hraw⟩ :=
    l.exists_closing hb hbefore hafter
  have hkeeps := LineRead.keeps hnb hend l.ofBytes?_label (hraw.trans hd)
  have hall := (hread.append hkeeps.single).readLines_append more
  rw [read, hlines, List.append_cons, hall]
  exact ⟨_, _, rfl⟩

theorem read_of_undecoded (hb : IsBody body) (hbefore : ¬Unbroken l.before)
    (hafter : EndsLine l.after) {e : Base64.Defect} (hd : Base64.decode body = .error e) :
    read (l.document body) = ⟨[], some (.base64 e)⟩ := by
  obtain ⟨ls, raw, line, more, hlines, hread, hnb, hend, hraw⟩ :=
    l.exists_closing hb hbefore hafter
  exact read_of_lineFails hlines hread (.body hnb hend l.ofBytes?_label (hraw.trans hd))

/-- The last boundary does not start a line: the section has no end. -/
theorem read_of_trailing (hb : IsBody body) (hne : body ≠ []) (hbefore : ¬Unbroken l.before)
    (hafter : ¬EndsLine l.after) :
    read (l.document body) = ⟨[], some (.missingEnd l.label)⟩ := by
  obtain ⟨first, y, hy, hopens, hlines⟩ := l.exists_opening hbefore
  have hdash := l.dash_not_mem hy hb
  obtain ⟨front, z, hsplit, hfront, hz⟩ := exists_last_line (y ++ body ++ l.after)
  rw [hsplit, List.mem_append, not_or] at hdash
  have hz0 : z ≠ [] := by
    rintro rfl
    rw [List.append_nil] at hsplit
    rcases hfront with rfl | hfront
    · simp [hne] at hsplit
    · rw [← hsplit] at hfront
      by_cases h : l.after = []
      · rw [h, List.append_nil] at hfront
        exact (hfront.of_append hne).not_unbroken hb.unbroken
      · exact hafter (hfront.of_append h)
  obtain ⟨t, u, hrest, hlast⟩ := lines_first (unbroken_append.mpr ⟨hz, l.unbroken_last⟩)
    (List.append_ne_nil_of_left_ne_nil hz0 _) l.rest
  have hlines' : lines (l.document body) =
      first :: (lines front ++ (z ++ l.last ++ t) :: lines u) := by
    have hparts : y ++ (body ++ l.after ++ (l.last ++ l.rest)) =
        front ++ (z ++ l.last ++ l.rest) := by
      calc y ++ (body ++ l.after ++ (l.last ++ l.rest))
          = y ++ body ++ l.after ++ (l.last ++ l.rest) := by simp
        _ = front ++ (z ++ l.last ++ l.rest) := by rw [hsplit]; simp
    rw [document_eq, hlines, hparts]
    rcases hfront with rfl | hfront
    · rw [List.nil_append, hlast]
      rfl
    · rw [lines_append_of_endsLine hfront, hlast]
  have hhead : (z ++ l.last ++ t).head? ≠ some 45 := by
    cases z with
    | nil => exact absurd rfl hz0
    | cons c z =>
      rintro h
      obtain rfl : c = 45 := by simpa using h
      exact hdash.2 List.mem_cons_self
  have hu : 45 ∉ u := not_mem_spacing (fun b hm => l.spacing_rest (by simp [hrest, hm])) rfl
  have hjoined (body : List Bytes) : LineRead (some (l.label, body)) (z ++ l.last ++ t) []
      (some (l.label, (z ++ l.last ++ t) :: body)) :=
    .body (not_boundary hhead l.label).1 (not_boundary hhead l.label).2
  have hread := LinesRead.cons hopens ((linesRead_of_no_dash hdash.1 l.label []).append
    (.cons (hjoined _) (linesRead_of_no_dash hu l.label _)))
  exact read_of_unended (by rw [hlines']; exact hread)

/-! ### The body on the first line -/

theorem ascii_head : ∀ b ∈ l.head, b.toNat < 128 := by
  have hboundary : ∀ b ∈ beginning ++ l.label ++ dashes, b.toNat < 128 := by
    rw [label]
    cases l.kind <;> decide +kernel
  intro b hb
  rcases List.mem_append.mp hb with hb | hb
  · exact hboundary b hb
  · have := isBlank_of_isSpacing (l.spacing_before hb)
    rw [Base64.isBlank, Bool.or_eq_true, beq_iff_eq, Bool.and_eq_true, decide_eq_true_iff,
      decide_eq_true_iff] at this
    rcases this with rfl | ⟨-, h⟩
    · decide
    · exact Nat.lt_of_le_of_lt (UInt8.le_iff_toNat_le.mp h) (by decide)

theorem isLabel_append {x label : Bytes} (hx : Unbroken x) (h : IsLabel label) (hne : label ≠ []) :
    IsLabel (x ++ label) := by
  refine ⟨unbroken_append.mpr ⟨hx, h.unbroken⟩, fun b hb => h.last b ?_⟩
  obtain ⟨c, hc⟩ := Option.ne_none_iff_exists'.mp (mt List.getLast?_eq_none_iff.mp hne)
  rwa [List.getLast?_append, hc, Option.some_or, ← hc] at hb

/-- No line ends in front of the body: the defect quotes it. -/
theorem read_of_unbroken (hbefore : Unbroken l.before) :
    ∃ defect, Quoting defect ∧ ∀ body, IsBody body → body ≠ [] →
      read (l.document body) = ⟨[], some (defect body)⟩ := by
  rcases unbroken_or_split l.after with hafter | ⟨x, e, y, hafter, hx, he⟩
  · -- The line goes on to the last boundary, whose dashes make all of it a label.
    refine ⟨fun body => .missingEnd
      (l.label ++ dashes ++ l.before ++ body ++ (l.after ++ ending ++ l.label)),
      ⟨"section end ", " missing", l.label ++ dashes ++ l.before, l.after ++ ending ++ l.label,
        fun b hb => l.ascii_head b (by simp [head] at hb ⊢; tauto), fun _ => rfl⟩,
      fun body hb hne => ?_⟩
    have hlabel : IsLabel
        (l.label ++ dashes ++ l.before ++ body ++ (l.after ++ ending ++ l.label)) := by
      rw [← List.append_assoc]
      refine isLabel_append ?_ l.isLabel.1 l.isLabel.2
      simp only [unbroken_append]
      exact ⟨⟨⟨⟨l.isLabel.1.unbroken, unbroken_dashes⟩, hbefore⟩, hb.unbroken⟩, hafter,
        unbroken_ending⟩
    have hfirst : Unbroken (l.head ++ body ++ l.after ++ l.last) := by
      simp only [unbroken_append]
      exact ⟨⟨⟨l.unbroken_head hbefore, hb.unbroken⟩, hafter⟩, l.unbroken_last⟩
    obtain ⟨t, u, hrest, hlines⟩ := lines_first hfirst
      (List.append_ne_nil_of_right_ne_nil _ l.last_ne_nil) l.rest
    have hline : l.head ++ body ++ l.after ++ l.last ++ t =
        beginning ++ (l.label ++ dashes ++ l.before ++ body ++ (l.after ++ ending ++ l.label)) ++
          dashes ++ t := by
      simp [head, last]
    rw [hline] at hlines
    have hopens := LineRead.opens (o := none) ⟨_, by rw [List.append_assoc, List.append_assoc]⟩
      (labelOf?_written (e := t) hlabel fun b hm => l.spacing_rest (by simp [hrest, hm]))
    have hu : 45 ∉ u := not_mem_spacing (fun b hm => l.spacing_rest (by simp [hrest, hm])) rfl
    have hread := LinesRead.cons hopens (linesRead_of_no_dash hu _ _)
    rw [← hlines] at hread
    exact read_of_unended hread
  · -- The line ends behind the body and not in dashes.
    refine ⟨fun body => .illegalStart (l.head ++ body ++ (x ++ [e])),
      ⟨"illegal section start: ", "", l.head, x ++ [e], l.ascii_head, fun _ => by
        rw [String.append_empty]; rfl⟩,
      fun body hb hne => ?_⟩
    have hlines : lines (l.document body) =
        (l.head ++ body ++ (x ++ [e])) :: lines (y ++ l.last ++ l.rest) := by
      have hdocument : l.document body = l.head ++ body ++ x ++ e :: (y ++ l.last ++ l.rest) := by
        simp [document, hafter]
      have hfirst : Unbroken (l.head ++ body ++ x) :=
        unbroken_append.mpr ⟨unbroken_append.mpr ⟨l.unbroken_head hbefore, hb.unbroken⟩, hx⟩
      rw [hdocument, lines_append hfirst he, List.append_assoc]
    have hnone : labelOf? (l.head ++ body ++ (x ++ [e])) = none := by
      rcases List.eq_nil_or_concat body with rfl | ⟨b, c, rfl⟩
      · exact absurd rfl hne
      · obtain ⟨hd, hs⟩ := plain_of_symbol (hb c (by simp))
        have hline : l.head ++ b.concat c ++ (x ++ [e]) = l.head ++ b ++ [c] ++ (x ++ [e]) := by
          simp
        rw [hline]
        exact labelOf?_eq_none hd hs fun b hm => l.spacing_after (by
          rw [hafter, List.append_cons]
          exact List.mem_append_left y hm)
    exact read_of_lineFails hlines .nil (.start ⟨_, by rw [head]; simp; rfl⟩ hnone)

/-! ### Two bodies in one layout -/

/-- **Nothing in their defects tells two bodies apart**: they are the same, or a line ends in front
of them, and where the last boundary has a line of its own, they fail alike. -/
def Conceals (a b : Bytes) : Prop :=
  a = b ∨ ¬Unbroken l.before ∧ (EndsLine l.after → Base64.decode a = Base64.decode b)

/-- **When the defects of two bodies have one text.** Bodies between boundaries that have lines of
their own have to fail. -/
theorem exists_defects {a b : Bytes} (ha : IsBody a) (hb : IsBody b) (hlen : a.length = b.length)
    (hab : a ≠ b)
    (hdecode : ¬Unbroken l.before → EndsLine l.after → ∃ d, Base64.decode a = .error d)
    (hdecode' : ¬Unbroken l.before → EndsLine l.after → ∃ d, Base64.decode b = .error d) :
    ∃ d d', read (l.document a) = ⟨[], some d⟩ ∧ read (l.document b) = ⟨[], some d'⟩ ∧
      (d.message = d'.message ↔ l.Conceals a b) := by
  have hne : a ≠ [] := by
    rintro rfl
    exact hab (List.length_eq_zero_iff.mp hlen.symm).symm
  have hne' : b ≠ [] := by
    rintro rfl
    exact hab (List.length_eq_zero_iff.mp hlen)
  by_cases hbefore : Unbroken l.before
  · obtain ⟨defect, hquoting, hread⟩ := l.read_of_unbroken hbefore
    refine ⟨_, _, hread a ha hne, hread b hb hne', iff_of_false (fun hm => ?_) ?_⟩
    · exact hab (hquoting.injective ha hb hlen hm)
    · rintro (hc | ⟨hc, -⟩)
      · exact hab hc
      · exact hc hbefore
  by_cases hafter : EndsLine l.after
  · obtain ⟨d, hd⟩ := hdecode hbefore hafter
    obtain ⟨d', hd'⟩ := hdecode' hbefore hafter
    refine ⟨_, _, l.read_of_undecoded ha hbefore hafter hd,
      l.read_of_undecoded hb hbefore hafter hd', fun hm => ?_, ?_⟩
    · refine .inr ⟨hbefore, fun _ => ?_⟩
      rw [hd, hd', ha.defect_eq hb hd hd' hm]
    · rintro (hc | ⟨-, hc⟩)
      · exact absurd hc hab
      · have := hc hafter
        rw [hd, hd'] at this
        cases this
        rfl
  · exact ⟨_, _, l.read_of_trailing ha hne hbefore hafter,
      l.read_of_trailing hb hne' hbefore hafter,
      iff_of_true rfl (.inr ⟨hbefore, fun hc => absurd hc hafter⟩)⟩

end Layout

end SecureStream.Pem
