import SecureStream.Proofs.Credentials.KeySelection
import SecureStream.Proofs.Credentials.RootBundle

/-! # Binary values

A certificate or a key may come in its binary form. Octets are taken for a document if the marker of
a boundary stands anywhere in them, so a binary value is taken for what it is exactly if it does not
hold the marker: what is found in a document is shorter than the document (`certificates_shorter`,
`privateKeyOf_shorter`).

* `binary_form_iff`: when a binary value comes to the same as a document that holds it. -/

namespace SecureStream.Credentials

open Pem (Part)
open X509 (TrustAnchor Certificate)

variable {b : Bytes}

theorem isDocument_iff : Pem.isDocument b = true ↔ Pem.marker <:+: b := Bytes.contains_iff

/-! ### What a binary value comes to -/

/-- The trust anchor of a binary certificate, or why it is none. -/
def binaryRoots (b : Bytes) : Except CredentialError (List TrustAnchor) :=
  match TrustAnchor.ofBytes b with
  | .ok anchor => .ok [anchor]
  | .error x => .error (.rootCa (rootText 0 x))

/-- The chain of a binary certificate. -/
def binaryChain (b : Bytes) : Except CredentialError (List Bytes) :=
  match Certificate.read .refuse b with
  | .ok _ => .ok [b]
  | .error x => .error (.clientCertificate (elementText 0 x))

/-- What is said of octets that start like no key. -/
def unknownText : String := "unknown or invalid key format"

/-- The key that octets show to be. -/
def binaryKey (b : Bytes) : Except CredentialError PrivateKey :=
  match PrivateKey.ofDer? b with
  | some key => .ok key
  | none => .error (.privateKey unknownText)

theorem content_of_ofDer? {key : PrivateKey} (h : PrivateKey.ofDer? b = some key) :
    key.content = b := by
  obtain ⟨body, -, h⟩ := Option.bind_eq_some_iff.mp h
  obtain ⟨format, -, rfl⟩ := Option.map_eq_some_iff.mp h
  rfl

theorem binaryKey_eq_ok_iff {key : PrivateKey} :
    binaryKey b = .ok key ↔ PrivateKey.ofDer? b = some key := by
  unfold binaryKey
  cases PrivateKey.ofDer? b <;> simp

theorem certificates_binary (hs : Der.isSequence b = true) (hd : ¬Pem.isDocument b = true) :
    certificates b = .ok [b] := by
  rw [certificates, if_neg hd, if_pos hs]

theorem privateKeyOf_binary (hd : ¬Pem.isDocument b = true) (password : Bool) :
    privateKeyOf b password = binaryKey b := by
  rw [privateKeyOf, if_neg hd, binaryKey]
  cases PrivateKey.ofDer? b <;> rfl

theorem roots_of_certificates (h : certificates b = .ok [b]) : roots b = binaryRoots b := by
  rw [roots, h, binaryRoots, Except.bind, anchors]
  cases TrustAnchor.ofBytes b <;> rfl

theorem clientChain_of_certificates (h : certificates b = .ok [b]) :
    clientChain b = binaryChain b := by
  rw [clientChain, h, binaryChain, Except.bind, checkChain]
  cases Certificate.read .refuse b <;> rfl

/-! ### What a document comes to -/

theorem mem_of_collect {ss : List Pem.Section} {count : ℕ} {found : List Bytes}
    (h : collect count ss = .ok found) {c : Bytes} (hc : c ∈ found) : ∃ s ∈ ss, s.content = c := by
  induction ss generalizing count found with
  | nil =>
    cases h
    cases hc
  | cons s ss ih =>
    rw [collect] at h
    split at h
    · split at h
      · obtain ⟨rest, hr, rfl⟩ := Except.map_eq_ok_iff.mp h
        rcases List.mem_cons.mp hc with rfl | hc
        · exact ⟨s, List.mem_cons_self, rfl⟩
        · obtain ⟨s', hs', hcontent⟩ := ih hr hc
          exact ⟨s', List.mem_cons_of_mem _ hs', hcontent⟩
      · cases h
    · obtain ⟨s', hs', hcontent⟩ := ih h hc
      exact ⟨s', List.mem_cons_of_mem _ hs', hcontent⟩

/-- **Certificates of a document are shorter.** -/
theorem certificates_shorter (hd : Pem.isDocument b = true) {found : List Bytes}
    (h : certificates b = .ok found) {c : Bytes} (hc : c ∈ found) : c.length < b.length := by
  rw [certificates, if_pos hd] at h
  obtain ⟨found', hcollect, h⟩ := Except.bind_eq_ok_iff.mp h
  have hfound : found' = found := by
    split at h
    · cases h
    · split at h <;> cases h
      rfl
  obtain ⟨s, hs, rfl⟩ := mem_of_collect hcollect (hfound ▸ hc)
  exact Pem.length_content_lt hs

theorem content_of_ofSection? {s : Pem.Section} {key : PrivateKey}
    (h : PrivateKey.ofSection? s = some key) : key.content = s.content := by
  unfold PrivateKey.ofSection? at h
  split at h <;> cases h <;> rfl

theorem malformed_ne_unknown (m : String) : "malformed PEM: " ++ m ≠ unknownText := by
  intro h
  have hletter : "malformed PEM: ".toList = 'm' :: "alformed PEM: ".toList := by decide
  have hfirst := congrArg (fun s : String => s.toList.head?) h
  simp only [String.toList_append, hletter, List.cons_append, List.head?_cons] at hfirst
  revert hfirst
  decide

/-- **So is the key**, and where there is none, the error is not that of a binary value. -/
theorem privateKeyOf_shorter (hd : Pem.isDocument b = true) (password : Bool) :
    (∃ key, privateKeyOf b password = .ok key ∧ key.content.length < b.length) ∨
      ∃ m, privateKeyOf b password = .error (.privateKey m) ∧ m ≠ unknownText := by
  by_cases hm : Unmarked b
  · rw [privateKeyOf_unmarked hd hm, firstKey]
    cases hk : (Pem.read b).sections.findSome? PrivateKey.ofSection? with
    | some key =>
      obtain ⟨s, hs, hkey⟩ := List.exists_of_findSome?_eq_some hk
      refine .inl ⟨key, rfl, ?_⟩
      rw [content_of_ofSection? hkey]
      exact Pem.length_content_lt hs
    | none =>
      cases (Pem.read b).defect with
      | none => exact .inr ⟨_, rfl, by decide⟩
      | some defect => exact .inr ⟨_, rfl, malformed_ne_unknown _⟩
  · refine .inr ⟨_, privateKeyOf_marked hd hm password, ?_⟩
    cases password <;> decide

/-! ### When they agree -/

theorem certificates_eq_iff (hs : Der.isSequence b = true) :
    certificates b = .ok [b] ↔ ¬Pem.marker <:+: b := by
  rw [← isDocument_iff]
  refine ⟨fun h hd => ?_, certificates_binary hs⟩
  exact Nat.lt_irrefl _ (certificates_shorter hd h List.mem_cons_self)

theorem privateKeyOf_eq_iff (password : Bool) :
    privateKeyOf b password = binaryKey b ↔ ¬Pem.marker <:+: b := by
  rw [← isDocument_iff]
  refine ⟨fun h hd => ?_, fun hd => privateKeyOf_binary hd password⟩
  rcases privateKeyOf_shorter hd password with ⟨key, hkey, hlt⟩ | ⟨m, hm, hne⟩
  · rw [h, binaryKey_eq_ok_iff] at hkey
    rw [content_of_ofDer? hkey] at hlt
    exact Nat.lt_irrefl _ hlt
  · rw [h, binaryKey] at hm
    split at hm <;> cases hm
    exact hne rfl

/-- A key that takes up all of the octets does not come from a document. -/
theorem privateKeyOf_eq_ok_iff (password : Bool) (format : KeyFormat) :
    privateKeyOf b password = .ok ⟨format, b⟩ ↔
      ¬Pem.marker <:+: b ∧ PrivateKey.ofDer? b = some ⟨format, b⟩ := by
  constructor
  · intro h
    have hnot : ¬Pem.marker <:+: b := by
      intro hmarker
      rcases privateKeyOf_shorter (isDocument_iff.mpr hmarker) password with
        ⟨key, hok, hlt⟩ | ⟨m, herror, -⟩
      · rw [h] at hok
        cases hok
        exact Nat.lt_irrefl _ hlt
      · rw [h] at herror
        cases herror
    rw [(privateKeyOf_eq_iff password).mpr hnot] at h
    exact ⟨hnot, binaryKey_eq_ok_iff.mp h⟩
  · rintro ⟨hnot, hkey⟩
    rw [(privateKeyOf_eq_iff password).mpr hnot, binaryKey_eq_ok_iff.mpr hkey]

theorem certificates_of_written {parts : List Part} {document : Bytes}
    (hw : Pem.Written (parts.flatMap Part.lines) document)
    (hb : parts.filterMap Part.certificate? = [b]) (hs : Der.isSequence b = true) :
    certificates document = .ok [b] := by
  have hd := Pem.isDocument_written hw (by rw [hb]; exact List.cons_ne_nil b [])
  rw [← Pem.certificates_written] at hb
  have hread := Pem.read_written hw
  have hone : certificatesOf (parts.flatMap Part.sections) = [b] := hb
  rw [certificates_of_read hd hread (by simp [hone]) (by simpa [hone] using hs), hone]

theorem privateKeyOf_of_written {parts : List Part} {document : Bytes} {key : PrivateKey}
    (hw : Pem.Written (parts.flatMap Part.lines) document) (hm : Unmarked document)
    (hk : parts.findSome? keyOfPart? = some key) (password : Bool) :
    privateKeyOf document password = .ok key := by
  obtain ⟨p, hp, hkey⟩ := List.exists_of_findSome?_eq_some hk
  have hs : p.isSection = true := by
    cases p with
    | text line ht => cases hkey
    | «section» label content width hl hw => rfl
  exact (privateKeyOf_written hw (.inl (Pem.isDocument_of_section hw hp hs)) hm password).mpr hk

/-- **When a binary value is taken for what it is.** The marker of a boundary must not stand in it;
then it comes to the same as a document that holds it, a key if it starts like the key that the label
names. -/
theorem binary_form_iff (hs : Der.isSequence b = true) (password : Bool) :
    (certificates b = .ok [b] ↔ ¬Pem.marker <:+: b) ∧
    (privateKeyOf b password = binaryKey b ↔ ¬Pem.marker <:+: b) ∧
    (¬Pem.marker <:+: b → roots b = binaryRoots b ∧ clientChain b = binaryChain b) ∧
    (∀ (parts : List Part) (document : Bytes),
      Pem.Written (parts.flatMap Part.lines) document →
      parts.filterMap Part.certificate? = [b] →
      (certificates b = certificates document ↔ ¬Pem.marker <:+: b) ∧
      (¬Pem.marker <:+: b → roots b = roots document ∧ clientChain b = clientChain document)) ∧
    ∀ (parts : List Part) (document : Bytes) (format : KeyFormat),
      Pem.Written (parts.flatMap Part.lines) document → Unmarked document →
      parts.findSome? keyOfPart? = some ⟨format, b⟩ →
      (privateKeyOf b password = privateKeyOf document password ↔
        ¬Pem.marker <:+: b ∧ PrivateKey.ofDer? b = some ⟨format, b⟩) := by
  have hcertificates := certificates_eq_iff hs
  have hkey := privateKeyOf_eq_iff (b := b) password
  refine ⟨hcertificates, hkey, fun hm => ?_, fun parts document hw hb => ?_,
    fun parts document format hw hm hk => ?_⟩
  · have h := hcertificates.mpr hm
    exact ⟨roots_of_certificates h, clientChain_of_certificates h⟩
  · have hdocument := certificates_of_written hw hb hs
    refine ⟨by rw [hdocument, hcertificates], fun hm => ?_⟩
    have h : certificates b = certificates document := by
      rw [hdocument, hcertificates.mpr hm]
    exact ⟨by rw [roots, roots, h], by rw [clientChain, clientChain, h]⟩
  · rw [privateKeyOf_of_written hw hm hk password]
    exact privateKeyOf_eq_ok_iff password format

/-- A root whose subject is the marker. -/
def markedRoot : Bytes :=
  [0x30, 0x20, 0x30, 0x19, 0x02, 0x01, 0x01, 0x30, 0x00, 0x30, 0x00, 0x30, 0x00, 0x30, 0x0c, 0x0c,
    0x0a] ++ Pem.marker ++ [0x30, 0x00, 0x30, 0x00, 0x03, 0x01, 0x00]

/-- A key whose octets are the marker. -/
def markedKey : Bytes :=
  [0x30, 0x11, 0x02, 0x01, 0x00, 0x30, 0x00, 0x04, 0x0a] ++ Pem.marker

/-- Both are taken from a document and not alone. -/
theorem binary_form_iff_marked :
    let root := [writtenAs .certificate markedRoot]
    let key := [writtenAs .pkcs8Key markedKey]
    let document (parts : List Part) := Pem.withFeeds (parts.flatMap Part.lines)
    roots (document root) = .ok [⟨[0x0c, 0x0a] ++ Pem.marker, [], none⟩] ∧
      certificates markedRoot ≠ certificates (document root) ∧
      roots markedRoot = .error (.rootCa "no certificates found") ∧
      privateKeyOf (document key) false = .ok ⟨.pkcs8, markedKey⟩ ∧
      privateKeyOf markedKey false ≠ privateKeyOf (document key) false ∧
      privateKeyOf markedKey false = .error (.privateKey "no private key found") := by
  intro root key document
  have hroot : ∀ l ∈ root.flatMap Part.lines, Pem.Unbroken l := by decide +kernel
  have hkey : ∀ l ∈ key.flatMap Part.lines, Pem.Unbroken l := by decide +kernel
  obtain ⟨-, -, -, hcertificates, -⟩ :=
    binary_form_iff (b := markedRoot) (by decide +kernel) false
  obtain ⟨-, -, -, -, hkeys⟩ := binary_form_iff (b := markedKey) (by decide +kernel) false
  have hroots := (hcertificates root (document root) (Pem.written_withFeeds hroot)
    (by decide +kernel)).1
  have hkeys := hkeys key (document key) .pkcs8 (Pem.written_withFeeds hkey) (by decide +kernel)
    (by decide +kernel)
  exact ⟨by decide +kernel, fun h => hroots.mp h (by decide +kernel), by decide +kernel,
    by decide +kernel, fun h => (hkeys.mp h).1 (by decide +kernel), by decide +kernel⟩

end SecureStream.Credentials
