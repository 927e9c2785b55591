import SecureStream.Pem.Base64.RoundTrip
import SecureStream.Proofs.Pem.Reading

/-! # Documents as they are written

A document consists of lines of text and of sections (`Part`), each section with its content in
Base64, broken into lines of any width. A line ends with a line feed, a carriage return or both, and
the last one may have no end (`Written`).

* `ofBytes?_eq_some_iff`: a kind of section is known by its label.
* `read_written`: such a document is read back. -/

namespace SecureStream.Pem

/-! ### Lines -/

/-- An octet that ends a line. -/
def isLineEnd (b : UInt8) : Bool := b == 10 || b == 13

/-- The end of a line, or a blank. -/
def isSpacing (b : UInt8) : Bool := isLineEnd b || b == 32

theorem isSpacing_of_isLineEnd {b : UInt8} (h : isLineEnd b = true) : isSpacing b = true := by
  rw [isSpacing, h, Bool.true_or]

/-- Without the end of a line in it. -/
def Unbroken (line : Bytes) : Prop := ∀ b ∈ line, isLineEnd b = false

instance (line : Bytes) : Decidable (Unbroken line) :=
  inferInstanceAs (Decidable (∀ b ∈ line, isLineEnd b = false))

/-- How a line ends. -/
inductive LineEnd
  | lf
  | cr
  | crlf

/-- The octets of a line end. -/
def LineEnd.octets : LineEnd → Bytes
  | lf => [10]
  | cr => [13]
  | crlf => [13, 10]

/-- **Lines written one after another**, each with an end of its own, the last one perhaps
without. -/
inductive Written : List Bytes → Bytes → Prop
  | nil : Written [] []
  | last {line} (hl : Unbroken line) (hne : line ≠ []) : Written [line] line
  | line {line rest b} (hl : Unbroken line) (e : LineEnd) (h : Written rest b) :
      Written (line :: rest) (line ++ e.octets ++ b)

/-- Lines with a line feed behind each. -/
def withFeeds (ls : List Bytes) : Bytes := ls.flatMap (· ++ [10])

theorem written_withFeeds {ls : List Bytes} (h : ∀ l ∈ ls, Unbroken l) :
    Written ls (withFeeds ls) := by
  induction ls with
  | nil => exact .nil
  | cons l ls ih =>
    rw [List.forall_mem_cons] at h
    rw [withFeeds, List.flatMap_cons]
    exact .line h.1 .lf (ih h.2)

theorem unbroken_cons {b : UInt8} {l : Bytes} :
    Unbroken (b :: l) ↔ isLineEnd b = false ∧ Unbroken l := by
  simp [Unbroken]

theorem lines_append {l : Bytes} (hl : Unbroken l) {b : UInt8} (hb : isLineEnd b = true)
    (rest : Bytes) : lines (l ++ b :: rest) = (l ++ [b]) :: lines rest := by
  induction l with
  | nil =>
    have hb' : b = 10 ∨ b = 13 := by simpa [isLineEnd] using hb
    simp [lines, hb']
  | cons c l ih =>
    obtain ⟨hc, hl⟩ := unbroken_cons.mp hl
    have hc' : ¬(c = 10 ∨ c = 13) := by simpa [isLineEnd] using hc
    rw [List.cons_append, lines, if_neg hc', ih hl]
    rfl

theorem lines_of_unbroken {l : Bytes} (hl : Unbroken l) (hne : l ≠ []) : lines l = [l] := by
  induction l with
  | nil => exact absurd rfl hne
  | cons c l ih =>
    obtain ⟨hc, hl⟩ := unbroken_cons.mp hl
    have hc' : ¬(c = 10 ∨ c = 13) := by simpa [isLineEnd] using hc
    rw [lines, if_neg hc']
    cases l with
    | nil => rfl
    | cons d l => rw [ih hl (by simp)]

/-- **Lines as the reader splits them**: each with what ends it; a line feed behind a carriage
return is a line of its own. -/
inductive Raw : List Bytes → List Bytes → Prop
  | nil : Raw [] []
  | line {l e rest raw} (he : ∀ b ∈ e, isLineEnd b = true) (h : Raw rest raw) :
      Raw (l :: rest) ((l ++ e) :: raw)
  | feed {rest raw} (h : Raw rest raw) : Raw rest ([10] :: raw)

theorem Written.raw {ls : List Bytes} {b : Bytes} (h : Written ls b) : Raw ls (lines b) := by
  induction h with
  | nil => exact .nil
  | @last line hl hne =>
    rw [lines_of_unbroken hl hne]
    have := Raw.line (l := line) (e := []) (by simp) .nil
    rwa [List.append_nil] at this
  | @line line rest b hl e _ ih =>
    cases e with
    | lf =>
      rw [LineEnd.octets, List.append_assoc, List.singleton_append, lines_append hl rfl]
      exact .line (by simp [isLineEnd]) ih
    | cr =>
      rw [LineEnd.octets, List.append_assoc, List.singleton_append, lines_append hl rfl]
      exact .line (by simp [isLineEnd]) ih
    | crlf =>
      have hfeed : lines (10 :: b) = [10] :: lines b := rfl
      rw [LineEnd.octets, List.append_assoc, List.cons_append, List.singleton_append,
        lines_append hl rfl, hfeed]
      exact .line (by simp [isLineEnd]) (.feed ih)

theorem Raw.split {ls ms raw : List Bytes} {l : Bytes} (h : Raw (ls ++ l :: ms) raw) :
    ∃ before e after, raw = before ++ (l ++ e) :: after ∧ Raw ls before ∧
      (∀ b ∈ e, isLineEnd b = true) ∧ Raw ms after := by
  generalize hx : ls ++ l :: ms = xs at h
  induction h generalizing ls with
  | nil => simp at hx
  | @line line e rest raw he h ih =>
    cases ls with
    | nil =>
      obtain ⟨rfl, rfl⟩ := List.cons.inj hx
      exact ⟨[], e, raw, rfl, .nil, he, h⟩
    | cons k ls =>
      obtain ⟨rfl, rfl⟩ := List.cons.inj hx
      obtain ⟨before, e', after, rfl, hb, he', ha⟩ := ih rfl
      exact ⟨(k ++ e) :: before, e', after, rfl, .line he hb, he', ha⟩
  | feed _ ih =>
    obtain ⟨before, e, after, rfl, hb, he, ha⟩ := ih hx
    exact ⟨[10] :: before, e, after, rfl, .feed hb, he, ha⟩

theorem Raw.filter_flatten {ls raw : List Bytes} (h : Raw ls raw) :
    raw.flatten.filter (!Base64.isBlank ·) = ls.flatten.filter (!Base64.isBlank ·) := by
  have blank {e : Bytes} (he : ∀ b ∈ e, isLineEnd b = true) :
      e.filter (!Base64.isBlank ·) = [] := by
    rw [List.filter_eq_nil_iff]
    intro b hb
    have := he b hb
    rw [isLineEnd, Bool.or_eq_true, beq_iff_eq, beq_iff_eq] at this
    rcases this with rfl | rfl <;> decide
  induction h with
  | nil => rfl
  | line he _ ih =>
    simp only [List.flatten_cons, List.filter_append, blank he, ih, List.append_nil]
  | feed _ ih =>
    simp only [List.flatten_cons, List.filter_append, ih]
    rfl

/-! ### Boundaries -/

theorem prefix_of_lineEnd {p l e : Bytes} (hp : Unbroken p) (he : ∀ b ∈ e, isLineEnd b = true)
    (h : p <+: l ++ e) : p <+: l := by
  obtain ⟨t, ht⟩ := h
  rcases List.append_eq_append_iff.mp ht with ⟨x, rfl, -⟩ | ⟨x, rfl, rfl⟩
  · exact List.prefix_append p x
  · cases x with
    | nil => simp
    | cons b x =>
      have hb := he b (by simp)
      rw [hp b (by simp)] at hb
      cases hb

theorem unbroken_beginning : Unbroken beginning := by decide +kernel

theorem not_beginning_of_text {l e : Bytes} (hl : ¬marker <+: l)
    (he : ∀ b ∈ e, isLineEnd b = true) : ¬beginning <+: l ++ e := fun h =>
  hl (marker_prefix_beginning.trans (prefix_of_lineEnd unbroken_beginning he h))

theorem not_boundary {l : Bytes} (h : l.head? ≠ some 45) (label : Bytes) :
    ¬beginning <+: l ∧ isEnd label l = false := by
  have no_start {p : Bytes} (hp : p.head? = some 45) : ¬p <+: l := by
    rintro ⟨t, rfl⟩
    cases p with
    | nil => cases hp
    | cons b p => exact h (by simpa using hp)
  refine ⟨no_start (by decide), ?_⟩
  rw [isEnd, Bool.eq_false_iff, ne_eq, List.isPrefixOf_iff_prefix]
  refine no_start ?_
  rw [List.append_assoc]
  rfl

/-- **A label that can be written**: in one line, and not ending in a dash or a blank. -/
structure IsLabel (label : Bytes) : Prop where
  unbroken : Unbroken label
  last : ∀ b, label.getLast? = some b → b ≠ 45 ∧ b ≠ 32

theorem isLabel_text (kind : Label) : IsLabel (Bytes.ofText kind.text) := by
  cases kind <;> exact ⟨by decide +kernel, by decide +kernel⟩

theorem ofBytes?_text (kind : Label) : Label.ofBytes? (Bytes.ofText kind.text) = some kind := by
  cases kind <;> decide +kernel

/-- **A kind is known by its label.** -/
theorem ofBytes?_eq_some_iff {label : Bytes} {kind : Label} :
    Label.ofBytes? label = some kind ↔ label = Bytes.ofText kind.text := by
  constructor
  · intro h
    rw [Label.ofBytes?] at h
    have htext := List.find?_some h
    exact (beq_iff_eq.mp htext).symm
  · rintro rfl
    exact ofBytes?_text kind

theorem closing_dash (r : Bytes) : closing (45 :: r) = ((closing r).1 + 1, (closing r).2 + 1) := by
  rw [closing]
  rfl

theorem closing_other {b : UInt8} (hd : b ≠ 45) (hs : isSpacing b = false) (r : Bytes) :
    closing (b :: r) = (0, 0) := by
  have hs' : ¬(b = 10 ∨ b = 13 ∨ b = 32) := by simpa [isSpacing, isLineEnd, and_assoc] using hs
  rw [closing]
  dsimp only
  rw [if_neg hd, if_neg hs']

theorem closing_spacing {e : Bytes} (he : ∀ b ∈ e, isSpacing b = true) (r : Bytes) :
    ∃ extent, closing (e ++ r) = ((closing r).1, extent) ∧
      ((closing r).1 ≠ 0 → extent = (closing r).2 + e.length) := by
  induction e with
  | nil => exact ⟨_, rfl, fun _ => rfl⟩
  | cons b e ih =>
    have hb : b = 10 ∨ b = 13 ∨ b = 32 := by
      simpa [isSpacing, isLineEnd, or_assoc] using he b (by simp)
    have hd : b ≠ 45 := by
      rintro rfl
      revert hb
      decide
    obtain ⟨extent, h, hextent⟩ := ih fun c hc => he c (by simp [hc])
    refine ⟨if (closing r).1 = 0 then 0 else extent + 1, ?_, fun h0 => ?_⟩
    · rw [List.cons_append, closing, h]
      dsimp only
      rw [if_neg hd, if_pos hb]
    · rw [if_neg h0, hextent h0, List.length_cons]
      omega

theorem closing_label {label : Bytes} (h : IsLabel label) :
    closing (beginning ++ label).reverse = (0, 0) := by
  rcases List.eq_nil_or_concat label with rfl | ⟨l, b, rfl⟩
  · decide
  · rw [List.concat_eq_append] at h ⊢
    obtain ⟨hdash, hblank⟩ := h.last b (by simp)
    have hspacing : isSpacing b = false := by
      simp [isSpacing, h.unbroken b (by simp), hblank]
    rw [← List.append_assoc, List.reverse_append]
    exact closing_other hdash hspacing _

/-- **The label of a written first line.** -/
theorem labelOf?_written {label e : Bytes} (h : IsLabel label)
    (he : ∀ b ∈ e, isSpacing b = true) :
    labelOf? (beginning ++ label ++ dashes ++ e) = some label := by
  have hdashes : dashes.reverse = [45, 45, 45, 45, 45] := by decide
  have hclosing : closing (beginning ++ label ++ dashes ++ e).reverse = (5, 5 + e.length) := by
    have h₅ : closing (dashes.reverse ++ (beginning ++ label).reverse) = (5, 5) := by
      simp only [hdashes, List.cons_append, List.nil_append, closing_dash, closing_label h]
    obtain ⟨extent, hc, hextent⟩ := closing_spacing (e := e.reverse) (by simpa using he)
      (dashes.reverse ++ (beginning ++ label).reverse)
    rw [h₅] at hc hextent
    rw [List.reverse_append, List.reverse_append, hc, hextent (by decide), List.length_reverse]
  have hlen : (beginning ++ label ++ dashes ++ e).length - (5 + e.length) =
      (beginning ++ label).length := by
    have : dashes.length = 5 := by decide
    simp only [List.length_append, this]
    omega
  rw [labelOf?, hclosing]
  dsimp only
  rw [if_pos rfl, hlen, List.append_assoc, List.take_left, List.drop_left]

theorem labelOf?_eq_none {line e : Bytes} {b : UInt8} (hd : b ≠ 45) (hs : isSpacing b = false)
    (he : ∀ b ∈ e, isSpacing b = true) : labelOf? (line ++ [b] ++ e) = none := by
  have hcount : (closing (line ++ [b] ++ e).reverse).1 = 0 := by
    obtain ⟨extent, hc, -⟩ := closing_spacing (e := e.reverse) (by simpa using he)
      (b :: line.reverse)
    rw [List.reverse_append, List.reverse_append, List.reverse_singleton, List.singleton_append, hc,
      closing_other hd hs]
  rw [labelOf?]
  dsimp only
  rw [if_neg (by rw [hcount]; decide)]

theorem isEnd_written (label e : Bytes) : isEnd label (ending ++ label ++ dashes ++ e) = true := by
  rw [isEnd, List.isPrefixOf_iff_prefix]
  exact List.prefix_append _ e

theorem not_beginning_of_ending (l : Bytes) : ¬beginning <+: ending ++ l := by
  have hb : beginning = [45, 45, 45, 45, 45, 66, 69, 71, 73, 78, 32] := by decide
  have he : ending = [45, 45, 45, 45, 45, 69, 78, 68, 32] := by decide
  rw [hb, he]
  simp

/-! ### Parts of a document -/

/-- **A part of a document**: a line of text, or a section with its label, its content and the width
of its lines. -/
inductive Part
  | text (line : Bytes) (ht : ¬marker <+: line)
  | section (label content : Bytes) (width : ℕ) (hl : IsLabel label) (hw : 0 < width)

namespace Part

/-- The lines of a part. -/
def lines : Part → List Bytes
  | text line _ => [line]
  | .section label content width _ _ =>
    (beginning ++ label ++ dashes) ::
      (Bytes.pieces width (Base64.encode content) ++ [ending ++ label ++ dashes])

/-- What is kept of a part: a section of a kind that is known. -/
def sections : Part → List Section
  | text _ _ => []
  | .section label content _ _ _ =>
    ((Label.ofBytes? label).map fun kind => ⟨kind, content⟩).toList

/-- Whether a part is a section. -/
def isSection : Part → Bool
  | text _ _ => false
  | .section _ _ _ _ _ => true

/-- The content of a part that holds a certificate. -/
def certificate? : Part → Option Bytes
  | text _ _ => none
  | .section label content _ _ _ =>
    if Label.ofBytes? label = some .certificate then some content else none

end Part

/-! ### Reading them back -/

theorem linesRead_body {ls raw : List Bytes} (h : Raw ls raw)
    (hls : ∀ l ∈ ls, l.head? ≠ some 45) (label : Bytes) (body : List Bytes) :
    LinesRead (some (label, body)) raw [] (some (label, raw.reverse ++ body)) := by
  have step {l : Bytes} (hl : l.head? ≠ some 45) {raw body o}
      (hr : LinesRead (some (label, l :: body)) raw [] o) :
      LinesRead (some (label, body)) (l :: raw) [] o :=
    .cons (.body (not_boundary hl label).1 (not_boundary hl label).2) hr
  induction h generalizing body with
  | nil => exact .nil
  | @line l e rest raw he _ ih =>
    rw [List.forall_mem_cons] at hls
    have hhead : (l ++ e).head? ≠ some 45 := by
      cases l with
      | nil =>
        cases e with
        | nil => simp
        | cons b e =>
          have hb := he b (by simp)
          rintro hc
          obtain rfl : b = 45 := by simpa using hc
          cases hb
      | cons b l => simpa using hls.1
    have := step hhead (ih hls.2 ((l ++ e) :: body))
    simpa using this
  | feed _ ih =>
    have := step (l := [10]) (by decide) (ih hls ([10] :: body))
    simpa using this

theorem linesRead_feeds {raw : List Bytes} (h : Raw [] raw) : LinesRead none raw [] none := by
  generalize hn : ([] : List Bytes) = ls at h
  induction h with
  | nil => exact .nil
  | line _ _ _ => cases hn
  | feed _ ih => exact .cons (.text (not_boundary (by decide) []).1) (ih hn)

theorem mem_pieces {n : ℕ} {b p : Bytes} (h : p ∈ Bytes.pieces n b) :
    p ≠ [] ∧ ∀ x ∈ p, x ∈ b := by
  fun_induction Bytes.pieces n b with
  | case1 => cases h
  | case2 b hb ih =>
    rw [not_or] at hb
    rcases List.mem_cons.mp h with rfl | h
    · exact ⟨by simp [hb.1, hb.2], fun x hx => List.mem_of_mem_take hx⟩
    · obtain ⟨hne, hp⟩ := ih h
      exact ⟨hne, fun x hx => List.mem_of_mem_drop (hp x hx)⟩

theorem head?_of_mem_pieces {n : ℕ} {content p : Bytes}
    (h : p ∈ Bytes.pieces n (Base64.encode content)) : p.head? ≠ some 45 := by
  obtain ⟨-, hp⟩ := mem_pieces h
  intro hh
  have := Base64.symbol_of_mem_encode (hp 45 (List.mem_of_mem_head? hh))
  revert this
  decide

theorem decode_raw {width : ℕ} (hw : 0 < width) {content : Bytes} {raw : List Bytes}
    (h : Raw (Bytes.pieces width (Base64.encode content)) raw) :
    Base64.decode raw.flatten = .ok content := by
  rw [← Base64.decode_filter, h.filter_flatten, Bytes.flatten_pieces hw, Base64.decode_filter,
    Base64.decode_encode]

/-- **A part in front of other lines.** -/
theorem linesRead_part {p : Part} {ls raw : List Bytes} {found : List Section}
    (h : Raw (p.lines ++ ls) raw)
    (hrest : ∀ {raw}, Raw ls raw → LinesRead none raw found none) :
    LinesRead none raw (p.sections ++ found) none := by
  cases p with
  | text line ht =>
    obtain ⟨before, e, after, rfl, hb, he, ha⟩ :=
      Raw.split (show Raw ([] ++ _ :: _) raw from h)
    exact (linesRead_feeds hb).append (.cons (.text (not_beginning_of_text ht he)) (hrest ha))
  | «section» label content width hl hw =>
    obtain ⟨before, e, after, rfl, hb, he, ha⟩ :=
      Raw.split (show Raw ([] ++ _ :: _) raw from h)
    have ha : Raw (Bytes.pieces width (Base64.encode content) ++
        (ending ++ label ++ dashes) :: ls) after := by
      rw [← List.singleton_append, ← List.append_assoc]
      exact ha
    obtain ⟨body, e', after, rfl, hbody, he', ha⟩ := ha.split
    have hopens : LineRead none (beginning ++ label ++ dashes ++ e) [] (some (label, [])) :=
      .opens ⟨label ++ dashes ++ e, by simp⟩
        (labelOf?_written hl fun b hb => isSpacing_of_isLineEnd (he b hb))
    have hcollects := linesRead_body hbody (fun p hp => head?_of_mem_pieces hp) label []
    rw [List.append_nil] at hcollects
    have hends : LineRead (some (label, body.reverse)) (ending ++ label ++ dashes ++ e')
        (Part.section label content width hl hw).sections none := by
      have hnb : ¬beginning <+: ending ++ label ++ dashes ++ e' := by
        rw [List.append_assoc, List.append_assoc]
        exact not_beginning_of_ending _
      have hend := isEnd_written label e'
      have hkept : (Part.section label content width hl hw).sections =
        ((Label.ofBytes? label).map fun kind => (⟨kind, content⟩ : Section)).toList := rfl
      rw [hkept]
      cases hk : Label.ofBytes? label with
      | none => exact .skips hnb hend hk
      | some kind =>
        refine .keeps hnb hend hk ?_
        rw [List.reverse_reverse]
        exact decode_raw hw hbody
    have hrest' := hcollects.append (LinesRead.cons hends (hrest ha))
    exact (linesRead_feeds hb).append (hopens.single.append hrest')

/-- **Parts one after another.** -/
theorem linesRead_parts {parts : List Part} {raw : List Bytes}
    (h : Raw (parts.flatMap Part.lines) raw) :
    LinesRead none raw (parts.flatMap Part.sections) none := by
  induction parts generalizing raw with
  | nil => exact linesRead_feeds h
  | cons p parts ih =>
    rw [List.flatMap_cons] at h ⊢
    exact linesRead_part h ih

/-- **A document that was written is read back**, however its lines end. -/
theorem read_written {parts : List Part} {document : Bytes}
    (h : Written (parts.flatMap Part.lines) document) :
    read document = ⟨parts.flatMap Part.sections, none⟩ :=
  read_of_linesRead (linesRead_parts h.raw)

/-! ### Written certificates -/

theorem certificates_written (parts : List Part) :
    certificates ⟨parts.flatMap Part.sections, none⟩ = parts.filterMap Part.certificate? := by
  induction parts with
  | nil => rfl
  | cons p parts ih =>
    simp only [certificates, List.flatMap_cons, List.filter_append, List.map_append] at ih ⊢
    rw [ih]
    cases p with
    | text line ht => rfl
    | «section» label content width hl hw =>
      cases hk : Label.ofBytes? label with
      | none => simp [Part.sections, Part.certificate?, hk]
      | some kind =>
        by_cases hc : kind = .certificate <;> simp [Part.sections, Part.certificate?, hk, hc]

theorem isDocument_of_section {parts : List Part} {document : Bytes}
    (h : Written (parts.flatMap Part.lines) document) {p : Part} (hp : p ∈ parts)
    (hs : p.isSection = true) : isDocument document = true := by
  cases p with
  | text line ht => cases hs
  | «section» label content width hl hw =>
    have hline : beginning ++ label ++ dashes ∈ parts.flatMap Part.lines :=
      List.mem_flatMap.mpr ⟨_, hp, by simp [Part.lines]⟩
    obtain ⟨ls, ms, hsplit⟩ := List.append_of_mem hline
    have hraw := h.raw
    rw [hsplit] at hraw
    obtain ⟨before, e, after, hl', -, -, -⟩ := hraw.split
    have hm : beginning ++ label ++ dashes ++ e ∈ Pem.lines document := by
      rw [hl']
      simp
    exact isDocument_of_beginning hm ⟨label ++ dashes ++ e, by simp⟩

theorem isDocument_written {parts : List Part} {document : Bytes}
    (h : Written (parts.flatMap Part.lines) document)
    (hc : parts.filterMap Part.certificate? ≠ []) : isDocument document = true := by
  obtain ⟨content, hm⟩ := List.exists_mem_of_ne_nil _ hc
  obtain ⟨p, hp, hpc⟩ := List.mem_filterMap.mp hm
  refine isDocument_of_section h hp ?_
  cases p with
  | text line ht => cases hpc
  | «section» label content width hl hw => rfl

end SecureStream.Pem
