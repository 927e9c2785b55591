import SecureStream.Proofs.Credentials.Failures
import SecureStream.Proofs.Pem.Sections

/-! # Which key is taken

The key of a document is that of the first section with the label of a key. Nothing behind it
matters, unless it marks an encrypted key: such a document is refused for a mark anywhere. A password
decides the text of that refusal only.

* `key_selected`: all of it. -/

namespace SecureStream.Credentials

open Pem (Part)

/-! ### Keys of sections -/

/-- The format that a label names, if it is that of a key. -/
def keyFormat? (label : Bytes) : Option KeyFormat :=
  if label = Bytes.ofText "PRIVATE KEY" then some .pkcs8
  else if label = Bytes.ofText "RSA PRIVATE KEY" then some .pkcs1
  else if label = Bytes.ofText "EC PRIVATE KEY" then some .sec1
  else none

/-- **The key that a part of a document holds.** -/
def keyOfPart? : Part → Option PrivateKey
  | .text _ _ => none
  | .section label content _ _ _ => (keyFormat? label).map fun format => ⟨format, content⟩

theorem ofSection?_eq (kind : Pem.Label) (content : Bytes) :
    PrivateKey.ofSection? ⟨kind, content⟩ =
      (keyFormat? (Bytes.ofText kind.text)).map fun format => ⟨format, content⟩ := by
  have hformat : keyFormat? (Bytes.ofText kind.text) =
      (PrivateKey.ofSection? ⟨kind, []⟩).map PrivateKey.format := by
    cases kind <;> decide +kernel
  rw [hformat]
  cases kind <;> rfl

theorem keyFormat?_of_unknown {label : Bytes} (h : Pem.Label.ofBytes? label = none) :
    keyFormat? label = none := by
  have hne (kind : Pem.Label) : label ≠ Bytes.ofText kind.text := by
    rintro rfl
    rw [Pem.ofBytes?_text] at h
    cases h
  have hpkcs8 : label ≠ Bytes.ofText "PRIVATE KEY" := hne .pkcs8Key
  have hpkcs1 : label ≠ Bytes.ofText "RSA PRIVATE KEY" := hne .pkcs1Key
  have hsec1 : label ≠ Bytes.ofText "EC PRIVATE KEY" := hne .sec1Key
  rw [keyFormat?, if_neg hpkcs8, if_neg hpkcs1, if_neg hsec1]

theorem findSome?_sections (p : Part) :
    p.sections.findSome? PrivateKey.ofSection? = keyOfPart? p := by
  cases p with
  | text line ht => rfl
  | «section» label content width hl hw =>
    rw [Part.sections, keyOfPart?]
    cases hk : Pem.Label.ofBytes? label with
    | none =>
      rw [keyFormat?_of_unknown hk]
      rfl
    | some kind =>
      obtain rfl := Pem.ofBytes?_eq_some_iff.mp hk
      rw [← ofSection?_eq]
      simp

theorem findSome?_parts (parts : List Part) :
    (parts.flatMap Part.sections).findSome? PrivateKey.ofSection? =
      parts.findSome? keyOfPart? := by
  induction parts with
  | nil => rfl
  | cons p parts ih =>
    rw [List.flatMap_cons, List.findSome?_append, findSome?_sections, ih, List.findSome?_cons]
    cases keyOfPart? p <;> rfl

/-! ### Keys of documents -/

variable {b : Bytes} {key : PrivateKey}

theorem firstKey_eq_ok_iff {d : Pem.Document} :
    firstKey d = .ok key ↔ d.sections.findSome? PrivateKey.ofSection? = some key := by
  unfold firstKey
  cases d.sections.findSome? PrivateKey.ofSection? with
  | some k => simp
  | none => cases d.defect <;> simp

/-- Without marks of encryption anywhere. -/
def Unmarked (b : Bytes) : Prop := ∀ m ∈ encryptionMarkers, ¬m <:+: b

theorem unmarked_iff :
    Unmarked b ↔ (encryptionMarkers.any fun m => Bytes.contains m b) = false := by
  simp only [Unmarked, List.any_eq_false, Bytes.contains_iff]

instance (b : Bytes) : Decidable (Unmarked b) := decidable_of_iff _ unmarked_iff.symm

theorem privateKeyOf_unmarked (hd : Pem.isDocument b = true) (hm : Unmarked b) (password : Bool) :
    privateKeyOf b password = (firstKey (Pem.read b)).mapError .privateKey := by
  rw [privateKeyOf, if_pos hd, unmarked_iff.mp hm, if_neg Bool.false_ne_true]

theorem privateKeyOf_unmarked_iff (hd : Pem.isDocument b = true) (hm : Unmarked b)
    (password : Bool) :
    privateKeyOf b password = .ok key ↔
      (Pem.read b).sections.findSome? PrivateKey.ofSection? = some key := by
  rw [privateKeyOf_unmarked hd hm, Except.mapError_eq_ok_iff, firstKey_eq_ok_iff]

/-- What is said of an encrypted key. -/
def encryptedText (password : Bool) : String :=
  if password then "encrypted private keys are not supported; decrypt the key before loading it"
  else "private key is encrypted and no decryption is available"

theorem privateKeyOf_marked (hd : Pem.isDocument b = true) (hm : ¬Unmarked b) (password : Bool) :
    privateKeyOf b password = .error (.privateKey (encryptedText password)) := by
  rw [unmarked_iff, Bool.not_eq_false] at hm
  rw [privateKeyOf, if_pos hd, if_pos hm]
  rfl

theorem privateKeyOf_append (hd : Pem.isDocument b = true) {password : Bool}
    (h : privateKeyOf b password = .ok key) {t : Bytes} (hm : Unmarked (b ++ t)) :
    privateKeyOf (b ++ t) password = .ok key := by
  have hshort : Unmarked b := fun m hmem hb =>
    hm m hmem (hb.trans (List.prefix_append b t).isInfix)
  have hlong : Pem.isDocument (b ++ t) = true := by
    rw [Pem.isDocument, Bytes.contains_iff] at hd ⊢
    exact hd.trans (List.prefix_append b t).isInfix
  rw [privateKeyOf_unmarked_iff hd hshort] at h
  rw [privateKeyOf_unmarked_iff hlong hm]
  obtain ⟨more, hmore⟩ := Pem.sections_append b t
  rw [← hmore, List.findSome?_append, h]
  rfl

theorem privateKeyOf_written {parts : List Part}
    (hw : Pem.Written (parts.flatMap Part.lines) b)
    (hd : Pem.isDocument b = true ∨ ∀ p ∈ parts, p.isSection = true) (hm : Unmarked b)
    (password : Bool) :
    privateKeyOf b password = .ok key ↔ parts.findSome? keyOfPart? = some key := by
  by_cases hdocument : Pem.isDocument b = true
  · rw [privateKeyOf_unmarked_iff hdocument hm, Pem.read_written hw, findSome?_parts]
  · -- Without a section there is nothing at all.
    have hnil : parts = [] := by
      have hs := hd.resolve_left hdocument
      rw [List.eq_nil_iff_forall_not_mem]
      exact fun p hp => hdocument (Pem.isDocument_of_section hw hp (hs p hp))
    subst hnil
    cases hw
    rw [privateKeyOf, if_neg hdocument]
    constructor <;> intro h <;> cases h

theorem findSome?_eq_none_of_error {parts : List Part} {password : Bool}
    (h : ∀ key, privateKeyOf b password = .ok key ↔ parts.findSome? keyOfPart? = some key) :
    (∃ m, privateKeyOf b password = .error (.privateKey m)) ↔
      ∀ p ∈ parts, keyOfPart? p = none := by
  rw [← List.findSome?_eq_none_iff]
  cases hk : privateKeyOf b password with
  | ok k =>
    rw [(h k).mp hk]
    simp
  | error x =>
    obtain ⟨m, rfl⟩ := privateKeyOf_eq_error hk
    have hnone : parts.findSome? keyOfPart? = none := by
      by_contra hne
      obtain ⟨key, hkey⟩ := Option.ne_none_iff_exists'.mp hne
      rw [(h key).mpr hkey] at hk
      cases hk
    simp [hnone]

/-! ### Passwords -/

theorem privateKeyOf_password (b : Bytes) (password password' : Bool) :
    (privateKeyOf b password).toOption = (privateKeyOf b password').toOption := by
  rw [privateKeyOf, privateKeyOf, Except.toOption_mapError, Except.toOption_mapError]
  split
  · split <;> rfl
  · rfl

theorem loadIdentity_toOption {c c' : Credentials} (hcert : c'.clientCert = c.clientCert)
    (hkey : c'.privateKey = c.privateKey) :
    c'.loadIdentity.1.toOption = c.loadIdentity.1.toOption := by
  cases hhalf : c.hasClientIdentity with
  | false =>
    have hhalf' : c'.hasClientIdentity = false := by
      rwa [hasClientIdentity, hcert, hkey]
    rw [loadIdentity_of_half hhalf, loadIdentity_of_half hhalf']
  | true =>
    obtain ⟨hc, hk⟩ := Bool.and_eq_true_iff.mp hhalf
    obtain ⟨cert, hc⟩ := Option.isSome_iff_exists.mp hc
    obtain ⟨k, hk⟩ := Option.isSome_iff_exists.mp hk
    rw [loadIdentity_fst hc hk, loadIdentity_fst (hcert.trans hc) (hkey.trans hk)]
    simp only [Except.toOption_bind, Except.toOption_map, Except.toOption_mapError,
      privateKeyOf_password k c'.privateKeyPassword.isSome c.privateKeyPassword.isSome]

theorem load_password (c : Credentials) (password : Option Bytes) :
    { c with privateKeyPassword := password }.load.1.toOption = c.load.1.toOption := by
  have hroot : { c with privateKeyPassword := password }.rootBytes = c.rootBytes := rfl
  have hidentity : { c with privateKeyPassword := password }.loadIdentity.1.toOption =
      c.loadIdentity.1.toOption := loadIdentity_toOption rfl rfl
  rw [load_fst, load_fst, hroot]
  simp only [Except.toOption_bind, Except.toOption_map, hidentity]

/-! ### All of it -/

/-- **Which key is taken**: that of the first section with the label of a key, whatever stands behind
it. A mark of encryption anywhere in a document refuses it, and a password changes the text of that
only. -/
theorem key_selected :
    (∀ (parts : List Part) (document : Bytes) (password : Bool),
      Pem.Written (parts.flatMap Part.lines) document →
      Pem.isDocument document = true ∨ (∀ p ∈ parts, p.isSection = true) → Unmarked document →
      (∀ key, privateKeyOf document password = .ok key ↔
        parts.findSome? keyOfPart? = some key) ∧
      ((∃ m, privateKeyOf document password = .error (.privateKey m)) ↔
        ∀ p ∈ parts, keyOfPart? p = none)) ∧
    (∀ (document t : Bytes) (password : Bool) (key : PrivateKey),
      Pem.isDocument document = true → privateKeyOf document password = .ok key →
      Unmarked (document ++ t) → privateKeyOf (document ++ t) password = .ok key) ∧
    (∀ (document : Bytes) (password : Bool), Pem.isDocument document = true →
      ¬Unmarked document →
      privateKeyOf document password = .error (.privateKey (encryptedText password))) ∧
    (∀ (b : Bytes) (password password' : Bool),
      (privateKeyOf b password).toOption = (privateKeyOf b password').toOption) ∧
    ∀ (c : Credentials) (password : Option Bytes),
      { c with privateKeyPassword := password }.load.1.toOption = c.load.1.toOption := by
  refine ⟨fun parts document password hw hd hm => ?_, fun document t password key hd h hm =>
    privateKeyOf_append hd h hm, fun document password hd hm => privateKeyOf_marked hd hm password,
    privateKeyOf_password, load_password⟩
  have hok (key : PrivateKey) : privateKeyOf document password = .ok key ↔
      parts.findSome? keyOfPart? = some key := privateKeyOf_written hw hd hm password
  exact ⟨hok, findSome?_eq_none_of_error hok⟩

/-- A section of a kind, in lines of four characters. -/
def writtenAs (kind : Pem.Label) (content : Bytes) : Part :=
  .section (Bytes.ofText kind.text) content 4 (Pem.isLabel_text kind) (Nat.succ_pos 3)

/-- A certificate and two keys. -/
def keyParts : List Part :=
  [writtenAs .certificate [0x30, 0x00], writtenAs .sec1Key [1, 2, 3], writtenAs .pkcs8Key [4, 5]]

/-- The first key is taken, also where a boundary is broken off behind the second, and refused where
a comment mentions encryption. -/
theorem key_selected_sec1 :
    let document := Pem.withFeeds (keyParts.flatMap Part.lines)
    let broken := document ++ Bytes.ofText "-----BEGIN PRIVATE"
    let marked := document ++ Bytes.ofText "not an ENCRYPTED PRIVATE KEY"
    privateKeyOf document true = .ok ⟨.sec1, [1, 2, 3]⟩ ∧
      (Pem.read broken).defect ≠ none ∧ privateKeyOf broken true = .ok ⟨.sec1, [1, 2, 3]⟩ ∧
      privateKeyOf marked true = .error (.privateKey (encryptedText true)) := by
  intro document broken marked
  obtain ⟨hwritten, hlonger, hmarked, -, -⟩ := key_selected
  have hlines : ∀ l ∈ keyParts.flatMap Part.lines, Pem.Unbroken l := by decide +kernel
  have hkey : privateKeyOf document true = .ok ⟨.sec1, [1, 2, 3]⟩ :=
    ((hwritten keyParts document true (Pem.written_withFeeds hlines) (.inr (by decide))
      (by decide +kernel)).1 _).mpr (by decide +kernel)
  exact ⟨hkey, by decide +kernel,
    hlonger document _ true _ (by decide +kernel) hkey (by decide +kernel),
    hmarked marked true (by decide +kernel) (by decide +kernel)⟩

end SecureStream.Credentials
