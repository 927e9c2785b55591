import SecureStream.Pem.Base64
import SecureStream.Text.Utf8
import SecureStream.Text.Quoted

/-! # PEM documents

A document is read line by line. A section starts at a line `-----BEGIN label-----` and ends at a
line that starts with `-----END label-----`; what stands between is Base64, and lines outside of a
section are passed over.

* `lines`: the lines of a document, each with the character that ends it.
* `Label`: the kinds of section that are kept; others are passed over.
* `read`: the sections of a document up to its end or the first defect. -/

namespace SecureStream.Pem

/-! ### Lines -/

/-- Splits after each line feed and each carriage return. -/
def lines : Bytes → List Bytes
  | [] => []
  | b :: rest =>
    if b = 10 ∨ b = 13 then [b] :: lines rest
    else match lines rest with
      | [] => [[b]]
      | l :: ls => (b :: l) :: ls

/-- **No octet is lost between the lines.** -/
theorem flatten_lines (b : Bytes) : (lines b).flatten = b := by
  induction b with
  | nil => rfl
  | cons b rest ih =>
    rw [lines]
    split
    · simp [ih]
    · split
      next h => rw [h] at ih; simp at ih; simp [← ih]
      next l ls h => rw [h] at ih; simp at ih; simp [ih]

/-! ### Labels -/

/-- A kind of section that is kept. -/
inductive Label
  | certificate
  | publicKey
  | pkcs1Key
  | pkcs8Key
  | sec1Key
  | revocationList
  | certificateRequest
  | echConfig
deriving DecidableEq, Repr

namespace Label

/-- Every kind. -/
def all : List Label :=
  [certificate, publicKey, pkcs1Key, pkcs8Key, sec1Key, revocationList, certificateRequest,
    echConfig]

/-- The label of a kind. -/
def text : Label → String
  | certificate => "CERTIFICATE"
  | publicKey => "PUBLIC KEY"
  | pkcs1Key => "RSA PRIVATE KEY"
  | pkcs8Key => "PRIVATE KEY"
  | sec1Key => "EC PRIVATE KEY"
  | revocationList => "X509 CRL"
  | certificateRequest => "CERTIFICATE REQUEST"
  | echConfig => "ECHCONFIG"

/-- The kind with that label. -/
def ofBytes? (b : Bytes) : Option Label := all.find? fun l => Bytes.ofText l.text == b

end Label

/-! ### Boundaries -/

/-- What every boundary starts with. -/
def marker : Bytes := Bytes.ofText "-----BEGIN"

/-- The start of a section's first line. -/
def beginning : Bytes := Bytes.ofText "-----BEGIN "

/-- The start of a section's last line. -/
def ending : Bytes := Bytes.ofText "-----END "

/-- Five dashes. -/
def dashes : Bytes := Bytes.ofText "-----"

/-- Reads a line from its end: the number of dashes before any other character than a blank or a
line end, and how much of the line they take up. -/
def closing : (reversed : Bytes) → Nat × Nat
  | [] => (0, 0)
  | b :: rest =>
    let (count, extent) := closing rest
    if b = 45 then (count + 1, extent + 1)
    else if b = 10 ∨ b = 13 ∨ b = 32 then (count, if count = 0 then 0 else extent + 1)
    else (0, 0)

/-- The label of a section's first line, which has to end in five dashes. -/
def labelOf? (line : Bytes) : Option Bytes :=
  let (count, extent) := closing line.reverse
  if count = 5 then some ((line.take (line.length - extent)).drop beginning.length) else none

/-- Whether a line ends a section with this label. -/
def isEnd (label line : Bytes) : Bool := (ending ++ label ++ dashes).isPrefixOf line

/-! ### Sections -/

/-- A section: its kind and the octets it holds. -/
structure Section where
  label : Label
  content : Bytes
deriving DecidableEq, Repr

/-- What is wrong with a document. -/
inductive Defect
  /-- The document ends inside of a section. -/
  | missingEnd (label : Bytes)
  /-- A section's first line does not end in five dashes. -/
  | illegalStart (line : Bytes)
  | base64 (defect : Base64.Defect)
deriving DecidableEq, Repr

/-- A defect in words. -/
def Defect.message : Defect → String
  | missingEnd label => "section end " ++ Text.quote (Text.decodeLossy label) ++ " missing"
  | illegalStart line => "illegal section start: " ++ Text.quote (Text.decodeLossy line)
  | base64 defect => defect.message

/-- **What a document holds**: its sections up to its end or the first defect. -/
structure Document where
  sections : List Section
  defect : Option Defect
deriving DecidableEq, Repr

/-- A document with one more section at the front. -/
def Document.cons (s : Section) (d : Document) : Document := { d with sections := s :: d.sections }

/-- Reads lines with an open section, or none: its label and the lines collected so far, last
first. -/
def readLines : Option (Bytes × List Bytes) → List Bytes → Document
  | none, [] => ⟨[], none⟩
  | some (label, _), [] => ⟨[], some (.missingEnd label)⟩
  | open?, line :: rest =>
    if beginning.isPrefixOf line then
      match labelOf? line with
      | none => ⟨[], some (.illegalStart line)⟩
      | some label => readLines (some (label, (open?.map Prod.snd).getD [])) rest
    else match open? with
      | none => readLines none rest
      | some (label, body) =>
        if isEnd label line then
          match Label.ofBytes? label with
          | none => readLines none rest
          | some kind =>
            match Base64.decode body.reverse.flatten with
            | .error e => ⟨[], some (.base64 e)⟩
            | .ok content => (readLines none rest).cons ⟨kind, content⟩
        else readLines (some (label, line :: body)) rest

/-- **Reads a document.** -/
def read (document : Bytes) : Document := readLines none (lines document)

/-- The certificates of a document. -/
def certificates (d : Document) : List Bytes :=
  (d.sections.filter fun s => s.label = .certificate).map Section.content

/-- Whether octets are taken for a document and not for a single binary value. -/
def isDocument (b : Bytes) : Bool := Bytes.contains marker b

end SecureStream.Pem
