import SecureStream.Pem.Document
import Mathlib.Tactic.Common

/-! # Documents line by line

What one line does to a reader with an open section or none (`LineRead`), which lines it cannot read
(`LineFails`), and how it goes on over lines (`LinesRead`). Every line is read or it is wrong
(`read_or_fails`).

* `read_of_linesRead`: what is read of a document whose lines are read and leave no section open.
* `Malformed`: a line of the document is wrong, or a section is open at its end. Reading stops there
  (`Malformed.defect_ne`), and the octets are taken for a document all the same
  (`Malformed.isDocument`). -/

namespace SecureStream.Pem

/-- An open section, if there is one: its label, and the lines collected so far, last first. -/
abbrev Open := Option (Bytes × List Bytes)

/-- **What a line does**: the sections that it completes, and the section that is open after it. -/
inductive LineRead : Open → Bytes → List Section → Open → Prop
  /-- Outside of a section a line is passed over. -/
  | text {line} (hb : ¬beginning <+: line) : LineRead none line [] none
  /-- A first line opens a section; one that is open already goes on under the new label. -/
  | opens {o line label} (hb : beginning <+: line) (hl : labelOf? line = some label) :
      LineRead o line [] (some (label, (o.map Prod.snd).getD []))
  | body {label body line} (hb : ¬beginning <+: line) (he : isEnd label line = false) :
      LineRead (some (label, body)) line [] (some (label, line :: body))
  /-- A section of a kind that is not kept is not decoded. -/
  | skips {label body line} (hb : ¬beginning <+: line) (he : isEnd label line = true)
      (hk : Label.ofBytes? label = none) : LineRead (some (label, body)) line [] none
  | keeps {label body line kind content} (hb : ¬beginning <+: line) (he : isEnd label line = true)
      (hk : Label.ofBytes? label = some kind)
      (hd : Base64.decode body.reverse.flatten = .ok content) :
      LineRead (some (label, body)) line [⟨kind, content⟩] none

/-- **What is wrong with a line.** -/
inductive LineFails : Open → Bytes → Defect → Prop
  /-- It opens a section and does not end in five dashes. -/
  | start {o line} (hb : beginning <+: line) (hl : labelOf? line = none) :
      LineFails o line (.illegalStart line)
  /-- It ends a section that is kept, and what it holds is not Base64. -/
  | body {label body line kind defect} (hb : ¬beginning <+: line) (he : isEnd label line = true)
      (hk : Label.ofBytes? label = some kind)
      (hd : Base64.decode body.reverse.flatten = .error defect) :
      LineFails (some (label, body)) line (.base64 defect)

/-- **A line is read or it is wrong.** -/
theorem read_or_fails (o : Open) (line : Bytes) :
    (∃ found o', LineRead o line found o') ∨ ∃ defect, LineFails o line defect := by
  by_cases hb : beginning <+: line
  · cases hl : labelOf? line with
    | none => exact .inr ⟨_, .start hb hl⟩
    | some label => exact .inl ⟨_, _, .opens hb hl⟩
  · cases o with
    | none => exact .inl ⟨_, _, .text hb⟩
    | some p =>
      obtain ⟨label, body⟩ := p
      cases he : isEnd label line with
      | false => exact .inl ⟨_, _, .body hb he⟩
      | true =>
        cases hk : Label.ofBytes? label with
        | none => exact .inl ⟨_, _, .skips hb he hk⟩
        | some kind =>
          cases hd : Base64.decode body.reverse.flatten with
          | error defect => exact .inr ⟨_, .body hb he hk hd⟩
          | ok content => exact .inl ⟨_, _, .keeps hb he hk hd⟩

/-! ### The reader -/

/-- A document with more sections at the front. -/
def Document.prepend (found : List Section) (d : Document) : Document :=
  { d with sections := found ++ d.sections }

@[simp] theorem prepend_nil (d : Document) : d.prepend [] = d := rfl

theorem prepend_append (found more : List Section) (d : Document) :
    d.prepend (found ++ more) = (d.prepend more).prepend found := by
  simp [Document.prepend]

theorem readLines_of_beginning (o : Open) {line : Bytes} (hb : beginning <+: line)
    (rest : List Bytes) :
    readLines o (line :: rest) =
      match labelOf? line with
      | none => ⟨[], some (.illegalStart line)⟩
      | some label => readLines (some (label, (o.map Prod.snd).getD [])) rest := by
  cases hl : labelOf? line with
  | none => cases o <;> simp [readLines, hb, hl]
  | some label => cases o <;> simp [readLines, hb, hl]

theorem LineRead.readLines_cons {o o' : Open} {line : Bytes} {found : List Section}
    (h : LineRead o line found o') (rest : List Bytes) :
    readLines o (line :: rest) = (readLines o' rest).prepend found := by
  cases h with
  | text hb =>
    rw [readLines, if_neg (by simpa using hb)]
    rfl
  | opens hb hl =>
    rw [readLines_of_beginning o hb, hl]
    rfl
  | body hb he =>
    rw [readLines, if_neg (by simpa using hb)]
    simp [he]
  | skips hb he hk =>
    rw [readLines, if_neg (by simpa using hb)]
    simp [he, hk]
  | keeps hb he hk hd =>
    rw [readLines, if_neg (by simpa using hb)]
    simp [he, hk, hd, Document.cons, Document.prepend]

theorem LineFails.readLines_cons {o : Open} {line : Bytes} {defect : Defect}
    (h : LineFails o line defect) (rest : List Bytes) :
    readLines o (line :: rest) = ⟨[], some defect⟩ := by
  cases h with
  | start hb hl => rw [readLines_of_beginning o hb, hl]
  | body hb he hk hd =>
    rw [readLines, if_neg (by simpa using hb)]
    simp [he, hk, hd]

/-- **Lines that are read**, one after another. -/
inductive LinesRead : Open → List Bytes → List Section → Open → Prop
  | nil {o} : LinesRead o [] [] o
  | cons {o line found o' rest more o''} (h : LineRead o line found o')
      (hr : LinesRead o' rest more o'') : LinesRead o (line :: rest) (found ++ more) o''

theorem LinesRead.append {o o' o'' : Open} {ls ms : List Bytes} {found more : List Section}
    (h : LinesRead o ls found o') (hr : LinesRead o' ms more o'') :
    LinesRead o (ls ++ ms) (found ++ more) o'' := by
  induction h with
  | nil => exact hr
  | cons h _ ih =>
    rw [List.append_assoc]
    exact .cons h (ih hr)

theorem LineRead.single {o o' : Open} {line : Bytes} {found : List Section}
    (h : LineRead o line found o') : LinesRead o [line] found o' := by
  have := LinesRead.cons h .nil
  rwa [List.append_nil] at this

/-- **The reader after lines.** -/
theorem LinesRead.readLines_append {o o' : Open} {ls : List Bytes} {found : List Section}
    (h : LinesRead o ls found o') (rest : List Bytes) :
    readLines o (ls ++ rest) = (readLines o' rest).prepend found := by
  induction h with
  | nil => rfl
  | cons h _ ih => rw [List.cons_append, h.readLines_cons, ih, prepend_append]

/-! ### Whole documents -/

/-- **Something is wrong with a section of a document**: a line cannot be read, or a section is
still open at the end. -/
inductive Malformed (document : Bytes) : Prop
  | line {before line after found o defect} (hl : lines document = before ++ line :: after)
      (hr : LinesRead none before found o) (hf : LineFails o line defect)
  | unended {found label body} (hr : LinesRead none (lines document) found (some (label, body)))

theorem read_of_linesRead {document : Bytes} {found : List Section}
    (h : LinesRead none (lines document) found none) : read document = ⟨found, none⟩ := by
  have := h.readLines_append []
  rw [List.append_nil] at this
  rw [read, this]
  simp [readLines, Document.prepend]

theorem read_of_unended {document : Bytes} {found : List Section} {label : Bytes}
    {body : List Bytes} (h : LinesRead none (lines document) found (some (label, body))) :
    read document = ⟨found, some (.missingEnd label)⟩ := by
  have := h.readLines_append []
  rw [List.append_nil] at this
  rw [read, this]
  simp [readLines, Document.prepend]

theorem read_of_lineFails {document line : Bytes} {before after : List Bytes}
    {found : List Section} {o : Open} {defect : Defect}
    (hl : lines document = before ++ line :: after) (hr : LinesRead none before found o)
    (hf : LineFails o line defect) : read document = ⟨found, some defect⟩ := by
  rw [read, hl, hr.readLines_append, hf.readLines_cons]
  simp [Document.prepend]

theorem Malformed.defect_ne {document : Bytes} (h : Malformed document) :
    (read document).defect ≠ none := by
  cases h with
  | line hl hr hf =>
    rw [read_of_lineFails hl hr hf]
    exact Option.some_ne_none _
  | unended hr =>
    rw [read_of_unended hr]
    exact Option.some_ne_none _

/-! ### Sections need a first line -/

theorem LinesRead.exists_beginning {o : Open} {ls : List Bytes} {found : List Section}
    {p : Bytes × List Bytes} (h : LinesRead o ls found (some p)) :
    o ≠ none ∨ ∃ line ∈ ls, beginning <+: line := by
  generalize hp : some p = o' at h
  induction h with
  | nil => exact .inl (by rw [← hp]; simp)
  | @cons o line found o' rest more o'' h _ ih =>
    rcases ih hp with hne | ⟨l, hl, hb⟩
    · cases h with
      | text _ => exact absurd rfl hne
      | opens hb _ => exact .inr ⟨line, List.mem_cons_self, hb⟩
      | body _ _ => exact .inl (by simp)
      | skips _ _ _ => exact .inl (by simp)
      | keeps _ _ _ _ => exact .inl (by simp)
    · exact .inr ⟨l, List.mem_cons_of_mem _ hl, hb⟩

theorem marker_prefix_beginning : marker <+: beginning := by decide

theorem isDocument_of_beginning {document line : Bytes} (hl : line ∈ lines document)
    (hb : beginning <+: line) : isDocument document = true := by
  rw [isDocument, Bytes.contains_iff]
  have hline : line <:+: document := by
    obtain ⟨before, after, h⟩ := List.append_of_mem hl
    refine ⟨before.flatten, after.flatten, ?_⟩
    rw [← flatten_lines document, h]
    simp
  exact (marker_prefix_beginning.trans hb).isInfix.trans hline

theorem Malformed.isDocument {document : Bytes} (h : Malformed document) :
    isDocument document = true := by
  have opened {found ls} {p : Bytes × List Bytes} (hr : LinesRead none ls found (some p))
      (hs : ∀ l ∈ ls, l ∈ lines document) : Pem.isDocument document = true := by
    obtain h | ⟨line, hl, hb⟩ := hr.exists_beginning
    · exact absurd rfl h
    · exact isDocument_of_beginning (hs line hl) hb
  cases h with
  | @line before line after found o defect hl hr hf =>
    cases hf with
    | start hb _ => exact isDocument_of_beginning (by rw [hl]; simp) hb
    | body _ _ _ _ => exact opened hr fun l hm => by rw [hl]; exact List.mem_append_left _ hm
  | unended hr => exact opened hr fun _ hm => hm

end SecureStream.Pem
