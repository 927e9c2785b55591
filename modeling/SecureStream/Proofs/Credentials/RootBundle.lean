import SecureStream.Credentials.Loader
import SecureStream.Proofs.Pem.Writing
import SecureStream.Proofs.Scripted
import Mathlib.Data.List.Forall2

/-! # Loading a root from a document

A document of certificates is loaded as a whole: every certificate in it becomes a trust anchor, in
order (`load_bundle`), and one that is refused, or a section that is malformed, makes the whole load
fail. A single certificate may come in its binary form as well. -/

namespace SecureStream.Credentials

open X509 (TrustAnchor)

/-! ### Collecting certificates -/

/-- **A certificate that becomes a trust anchor.** -/
structure Accepted (b : Bytes) (anchor : TrustAnchor) : Prop where
  sequence : Der.isSequence b = true
  anchor : TrustAnchor.ofBytes b = .ok anchor

/-- **A certificate that is refused**: it is not one sequence, or it cannot be read. -/
def Refused (b : Bytes) : Prop := Der.isSequence b = false ∨ ∃ e, TrustAnchor.ofBytes b = .error e

/-- The certificates among sections. -/
abbrev certificatesOf (ss : List Pem.Section) : List Bytes := Pem.certificates ⟨ss, none⟩

theorem certificatesOf_cons (s : Pem.Section) (ss : List Pem.Section) :
    certificatesOf (s :: ss) =
      if s.label = .certificate then s.content :: certificatesOf ss else certificatesOf ss := by
  by_cases h : s.label = .certificate <;> simp [certificatesOf, Pem.certificates, h]

theorem collect_of_sequences {ss : List Pem.Section}
    (h : ∀ b ∈ certificatesOf ss, Der.isSequence b = true) (count : ℕ) :
    collect count ss = .ok (certificatesOf ss) := by
  induction ss generalizing count with
  | nil => rfl
  | cons s ss ih =>
    rw [certificatesOf_cons] at h ⊢
    by_cases hs : s.label = .certificate
    · rw [if_pos hs, List.forall_mem_cons] at h
      rw [collect, if_pos hs, if_pos h.1, ih h.2, if_pos hs]
      rfl
    · rw [if_neg hs] at h
      rw [collect, if_neg hs, ih h, if_neg hs]

theorem collect_of_not_sequence {ss : List Pem.Section} {b : Bytes} (hb : b ∈ certificatesOf ss)
    (h : Der.isSequence b = false) (count : ℕ) : ∃ m, collect count ss = .error m := by
  induction ss generalizing count with
  | nil => cases hb
  | cons s ss ih =>
    rw [certificatesOf_cons] at hb
    by_cases hs : s.label = .certificate
    · rw [if_pos hs] at hb
      rw [collect, if_pos hs]
      by_cases hq : Der.isSequence s.content = true
      · rcases List.mem_cons.mp hb with rfl | hb
        · rw [h] at hq
          cases hq
        · obtain ⟨m, hm⟩ := ih hb (count + 1)
          exact ⟨m, by rw [if_pos hq, hm]; rfl⟩
      · rw [if_neg hq]
        exact ⟨_, rfl⟩
    · rw [if_neg hs] at hb
      rw [collect, if_neg hs]
      exact ih hb count

theorem anchors_of_forall₂ {bs : List Bytes} {as : List TrustAnchor}
    (h : List.Forall₂ (fun b a => TrustAnchor.ofBytes b = .ok a) bs as) (index : ℕ) :
    anchors index bs = .ok as := by
  induction h generalizing index with
  | nil => rfl
  | cons h _ ih =>
    rw [anchors, h, ih]
    rfl

theorem isSequence_of_accepted {bs : List Bytes} {as : List TrustAnchor}
    (h : List.Forall₂ Accepted bs as) : ∀ b ∈ bs, Der.isSequence b = true := by
  induction h with
  | nil => simp
  | cons h _ ih => exact List.forall_mem_cons.mpr ⟨h.sequence, ih⟩

theorem anchors_of_error {bs : List Bytes} {b : Bytes} (hb : b ∈ bs) {e : Tls.CertificateError}
    (h : TrustAnchor.ofBytes b = .error e) (index : ℕ) : ∃ m, anchors index bs = .error m := by
  induction bs generalizing index with
  | nil => cases hb
  | cons c bs ih =>
    rw [anchors]
    cases hc : TrustAnchor.ofBytes c with
    | error e => exact ⟨_, rfl⟩
    | ok a =>
      rcases List.mem_cons.mp hb with rfl | hb
      · rw [h] at hc
        cases hc
      · obtain ⟨m, hm⟩ := ih hb (index + 1)
        exact ⟨m, by rw [hm]; rfl⟩

/-! ### Roots of a document -/

variable {document : Bytes} {ss : List Pem.Section}

theorem certificates_of_read (hd : Pem.isDocument document = true)
    (hr : Pem.read document = ⟨ss, none⟩) (hne : certificatesOf ss ≠ [])
    (h : ∀ b ∈ certificatesOf ss, Der.isSequence b = true) :
    certificates document = .ok (certificatesOf ss) := by
  rw [certificates, if_pos hd, hr]
  simp only [collect_of_sequences h, bind, Except.bind, List.isEmpty_iff]
  rw [if_neg hne]

theorem roots_of_refused (hd : Pem.isDocument document = true)
    (hr : Pem.read document = ⟨ss, none⟩) {b : Bytes} (hb : b ∈ certificatesOf ss)
    (h : Refused b) : ∃ m, roots document = .error (.rootCa m) := by
  by_cases hseq : ∀ b ∈ certificatesOf ss, Der.isSequence b = true
  · obtain h | ⟨e, he⟩ := h
    · rw [hseq b hb] at h
      cases h
    · obtain ⟨m, hm⟩ := anchors_of_error hb he 0
      refine ⟨m, ?_⟩
      rw [roots, certificates_of_read hd hr (List.ne_nil_of_mem hb) hseq]
      simp only [Except.bind, hm]
      rfl
  · push Not at hseq
    obtain ⟨b', hb', hs⟩ := hseq
    obtain ⟨m, hm⟩ := collect_of_not_sequence hb' (Bool.eq_false_iff.mpr hs) 0
    refine ⟨m, ?_⟩
    rw [roots, certificates, if_pos hd, hr]
    simp only [hm, bind, Except.bind]
    rfl

theorem roots_of_malformed (h : Pem.Malformed document) :
    ∃ m, roots document = .error (.rootCa m) := by
  obtain ⟨defect, hdefect⟩ := Option.ne_none_iff_exists'.mp h.defect_ne
  rw [roots, certificates, if_pos h.isDocument]
  simp only [hdefect, bind, Except.bind]
  cases collect 0 (Pem.read document).sections with
  | error m => exact ⟨m, rfl⟩
  | ok found => exact ⟨_, rfl⟩

/-! ### The whole bundle -/

theorem rootBytes_of_ne {c : Credentials} {b : Bytes} (h : c.rootCa = some b) (hne : b ≠ []) :
    c.rootBytes = .ok b := by
  cases b with
  | nil => exact absurd rfl hne
  | cons x rest => rw [rootBytes, h]

theorem load_of_roots {c : Credentials} {b : Bytes} (hroot : c.rootCa = some b) (hne : b ≠ [])
    (hcert : c.clientCert = none) (hkey : c.privateKey = none) :
    c.load =
      match logged "failed to parse server root CA certificate" (roots b) with
      | (.error e, logs) => (.error e, logs)
      | (.ok anchors, logs) => (.ok ⟨anchors, none⟩, logs) := by
  have hidentity : c.loadIdentity = (.ok none, []) := by rw [loadIdentity, hcert, hkey]
  rw [load, rootBytes_of_ne hroot hne, hidentity]
  dsimp only
  cases hr : roots b with
  | error e => rfl
  | ok anchors => rfl

theorem load_of_roots_error {c : Credentials} {b : Bytes} (hroot : c.rootCa = some b)
    (hne : b ≠ []) {x : CredentialError} (h : roots b = .error x) :
    ∃ logs, c.load = (.error (.invalidCredentials x), logs) := by
  rw [load, rootBytes_of_ne hroot hne]
  dsimp only
  rw [h]
  exact ⟨_, rfl⟩

theorem ne_nil_of_isDocument (h : Pem.isDocument document = true) : document ≠ [] := by
  rintro rfl
  revert h
  decide

theorem ne_nil_of_isSequence {b : Bytes} (h : Der.isSequence b = true) : b ≠ [] := by
  rintro rfl
  cases h

/-- **Loading a root from a document.** -/
theorem load_bundle {parts : List Pem.Part} {c : Credentials}
    (hw : Pem.Written (parts.flatMap Pem.Part.lines) document) (hroot : c.rootCa = some document)
    (hcert : c.clientCert = none) (hkey : c.privateKey = none)
    (hne : parts.filterMap Pem.Part.certificate? ≠ []) :
    (∀ anchors, List.Forall₂ Accepted (parts.filterMap Pem.Part.certificate?) anchors →
      c.load = (.ok ⟨anchors, none⟩, [])) ∧
    (∀ b, parts.filterMap Pem.Part.certificate? = [b] → Der.isSequence b = true →
      Bytes.contains Pem.marker b = false → { c with rootCa := some b }.load = c.load) ∧
    (∀ b ∈ parts.filterMap Pem.Part.certificate?, Refused b →
      ∃ m logs, c.load = (.error (.invalidCredentials (.rootCa m)), logs)) ∧
    ∀ (c' : Credentials) (document' : Bytes), c'.rootCa = some document' → Pem.Malformed document' →
      ∃ m logs, c'.load = (.error (.invalidCredentials (.rootCa m)), logs) := by
  have hread := Pem.read_written hw
  have hd := Pem.isDocument_written hw hne
  rw [← Pem.certificates_written] at hne ⊢
  refine ⟨fun anchors h => ?_, fun b hb hs hm => ?_, fun b hb hr => ?_,
    fun c' document' hroot' hmal => ?_⟩
  · have hseq := isSequence_of_accepted h
    have hroots : roots document = .ok anchors := by
      rw [roots, certificates_of_read hd hread hne hseq]
      simp only [Except.bind, anchors_of_forall₂ (h.imp fun _ _ ha => ha.anchor) 0]
      rfl
    rw [load_of_roots hroot (ne_nil_of_isDocument hd) hcert hkey, hroots]
    rfl
  · have hroots : roots b = roots document := by
      have hnot : Pem.isDocument b = false := hm
      have hseq : ∀ x ∈ certificatesOf (parts.flatMap Pem.Part.sections),
          Der.isSequence x = true := by
        rw [certificatesOf, hb]
        simpa using hs
      rw [roots, roots, certificates_of_read hd hread hne hseq, certificatesOf, hb, certificates,
        hnot, if_neg Bool.false_ne_true, if_pos hs]
    rw [load_of_roots hroot (ne_nil_of_isDocument hd) hcert hkey, ← hroots]
    exact load_of_roots rfl (ne_nil_of_isSequence hs) hcert hkey
  · obtain ⟨m, hm⟩ := roots_of_refused hd hread hb hr
    obtain ⟨logs, hl⟩ := load_of_roots_error hroot (ne_nil_of_isDocument hd) hm
    exact ⟨m, logs, hl⟩
  · obtain ⟨m, hm⟩ := roots_of_malformed hmal
    obtain ⟨logs, hl⟩ := load_of_roots_error hroot' (ne_nil_of_isDocument hmal.isDocument) hm
    exact ⟨m, logs, hl⟩

/-- The least root in lines of sixteen characters, behind a line of text and a section of an unknown
kind. -/
def bareParts : List Pem.Part :=
  [.text (Bytes.ofText "root") (by decide),
    .section (Bytes.ofText "NOTE") [1, 2, 3] 3
      ⟨by decide +kernel, by decide +kernel⟩ (by decide),
    .section (Bytes.ofText "CERTIFICATE") (bareRoot.rootCa.getD []) 16
      ⟨by decide +kernel, by decide +kernel⟩ (by decide)]

/-- It loads, in a document and alone. -/
theorem load_bundle_bare :
    let c := { empty with rootCa := some (Pem.withFeeds (bareParts.flatMap Pem.Part.lines)) }
    bareParts.filterMap Pem.Part.certificate? = [bareRoot.rootCa.getD []] ∧
      c.load = (.ok ⟨[⟨[], [], none⟩], none⟩, []) ∧ bareRoot.load = c.load := by
  intro c
  have hparts : bareParts.filterMap Pem.Part.certificate? = [bareRoot.rootCa.getD []] := by
    decide +kernel
  have hlines : ∀ l ∈ bareParts.flatMap Pem.Part.lines, Pem.Unbroken l := by decide +kernel
  have hroot : Accepted (bareRoot.rootCa.getD []) ⟨[], [], none⟩ := by
    constructor <;> decide +kernel
  obtain ⟨hload, hbinary, -, -⟩ := load_bundle (c := c) (Pem.written_withFeeds hlines) rfl rfl rfl
    (by rw [hparts]; decide)
  rw [hparts] at hload hbinary
  exact ⟨hparts, hload _ (.cons hroot .nil), hbinary _ rfl hroot.sequence (by decide +kernel)⟩

/-- A section of an unknown kind is not decoded: the document loads although what the section holds
is not Base64. -/
theorem load_despite_unknown :
    let text := "-----BEGIN NOTE-----\n!\n-----END NOTE-----\n"
    let document := Bytes.ofText text ++ Pem.withFeeds (bareParts.flatMap Pem.Part.lines)
    Pem.lines (Bytes.ofText text) = [Bytes.ofText "-----BEGIN NOTE-----\n", Bytes.ofText "!\n",
        Bytes.ofText "-----END NOTE-----\n"] ∧
      Pem.Base64.decode (Bytes.ofText "!\n") = .error (.invalidCharacter 33) ∧
      { empty with rootCa := some document }.load = (.ok ⟨[⟨[], [], none⟩], none⟩, []) := by
  decide +kernel

end SecureStream.Credentials
