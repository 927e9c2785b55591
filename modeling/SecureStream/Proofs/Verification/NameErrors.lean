import SecureStream.Verifier
import Mathlib.Tactic.Common

/-! # Errors about the name

Of all the errors that the judgement of a certificate can come to, only those of the comparison with
the server's name are about the name: reading a certificate and looking for a path give none
(`nameless_read`, `nameless_verify`). So an error about the name tells that the certificate can be
read and that there is a path to a root (`path_of_aboutName`). -/

namespace SecureStream

open Tls (CertificateError)
open Verifier (isAboutName)

variable {α β : Type}

/-- **No error about the name.** -/
def Nameless (r : Except CertificateError α) : Prop := ∀ e, r = .error e → isAboutName e = false

/-! ### How computations are put together -/

@[simp] theorem nameless_ok (a : α) : Nameless (.ok a) := by
  intro e h
  cases h

@[simp] theorem nameless_pure (a : α) : Nameless (pure a : Except CertificateError α) :=
  nameless_ok a

@[simp] theorem nameless_error (e : CertificateError) :
    Nameless (.error e : Except CertificateError α) ↔ isAboutName e = false := by
  constructor
  · intro h
    exact h e rfl
  · rintro h e' he
    cases he
    exact h

@[simp] theorem nameless_bind (x : Except CertificateError α)
    (f : α → Except CertificateError β) :
    Nameless (x >>= f) ↔ Nameless x ∧ ∀ a, x = .ok a → Nameless (f a) := by
  cases x with
  | error e => simp [bind, Except.bind]
  | ok a => simp [bind, Except.bind]

@[simp] theorem nameless_map (f : α → β) (x : Except CertificateError α) :
    Nameless (x.map f) ↔ Nameless x := by
  cases x <;> simp [Except.map]

@[simp] theorem nameless_fmap (f : α → β) (x : Except CertificateError α) :
    Nameless (f <$> x) ↔ Nameless x :=
  nameless_map f x

@[simp] theorem nameless_ite (c : Prop) [Decidable c] (x y : Except CertificateError α) :
    Nameless (if c then x else y) ↔ (c → Nameless x) ∧ (¬c → Nameless y) := by
  by_cases h : c <;> simp [h]

namespace X509

@[simp] theorem nameless_defective (d : Tls.EncodingDefect) :
    Nameless (defective d : Except CertificateError α) := by
  simp [defective, isAboutName]

@[simp] theorem nameless_present (o : Option α) : Nameless (present o) := by
  cases o <;> simp [present]

@[simp] theorem nameless_framed (o : Option α) : Nameless (framed o) := by
  cases o <;> simp [framed]

@[simp] theorem nameless_exhausted (b : Bytes) : Nameless (exhausted b) := by
  simp [exhausted]

/-! ### Reading a certificate -/

@[simp] theorem nameless_flag (b : Bytes) : Nameless (flag b) := by
  unfold flag
  simp only [nameless_ite, nameless_bind, nameless_framed, nameless_ok, true_and, implies_true,
    and_true]
  rintro - ⟨content, rest⟩ -
  dsimp only
  split <;> simp

@[simp] theorem nameless_wholeBits (b : Bytes) : Nameless (wholeBits b) := by
  simp [wholeBits]

@[simp] theorem nameless_frame (b : Bytes) : Nameless (frame b) := by
  simp [frame]

@[simp] theorem nameless_checkVersion (b : Bytes) : Nameless (checkVersion b) := by
  unfold checkVersion
  split
  · simp [isAboutName]
  · simp only [nameless_bind, nameless_present, true_and]
    rintro ⟨value, after⟩ - magnitude -
    dsimp only
    split <;> simp [isAboutName]

@[simp] theorem nameless_keep (unknown : UnknownCritical) (x : Extensions) (number : ℕ)
    (critical : Bool) (value : Bytes) : Nameless (keep unknown x number critical value) := by
  unfold keep
  split <;> simp [isAboutName]

@[simp] theorem nameless_remember (unknown : UnknownCritical) (x : Extensions) (body : Bytes) :
    Nameless (remember unknown x body) := by
  simp [remember]

@[simp] theorem nameless_rememberAll (unknown : UnknownCritical) (x : Extensions) (b : Bytes) :
    Nameless (rememberAll unknown x b) := by
  fun_induction rememberAll unknown x b with
  | case1 => simp
  | case2 x b body rest _ e he => exact (nameless_error e).mpr (nameless_remember _ _ _ e he)
  | case3 => simp
  | case4 _ _ _ _ _ _ _ _ ih => exact ih

@[simp] theorem nameless_extensionsOf (unknown : UnknownCritical) (b : Bytes) :
    Nameless (extensionsOf unknown b) := by
  simp [extensionsOf]

@[simp] theorem nameless_read (unknown : UnknownCritical) (b : Bytes) :
    Nameless (Certificate.read unknown b) := by
  simp [Certificate.read, isAboutName]

@[simp] theorem nameless_readKey (b : Bytes) : Nameless (PublicKey.read b) := by
  simp [PublicKey.read]

/-! ### One certificate of a path -/

@[simp] theorem nameless_moment (b : Bytes) : Nameless (Validity.moment b) := by
  unfold Validity.moment
  simp only [nameless_bind, nameless_framed, true_and]
  rintro ⟨content, rest⟩ -
  dsimp only
  split <;> simp

@[simp] theorem nameless_validity (b : Bytes) (now : ℕ) : Nameless (Validity.check b now) := by
  simp [Validity.check, isAboutName]

namespace Path

@[simp] theorem nameless_basicConstraints (b : Option Bytes) : Nameless (basicConstraints b) := by
  unfold basicConstraints
  split
  · simp
  · next b =>
    split
    · next e he => exact (nameless_error e).mpr (nameless_flag b e he)
    · simp
    · split
      · simp
      · split <;> simp

@[simp] theorem nameless_checkRole (c : Certificate) (role : Role) :
    Nameless (checkRole c role) := by
  unfold checkRole
  split
  · next e he => exact (nameless_error e).mpr (nameless_basicConstraints _ e he)
  · cases role <;> simp [isAboutName]

@[simp] theorem nameless_hasPurpose (required : Tls.KeyPurpose) (seen : List Tls.KeyPurpose)
    (b : Bytes) : Nameless (hasPurpose required seen b) := by
  fun_induction hasPurpose required seen b <;> simp_all [isAboutName]

@[simp] theorem nameless_checkPurpose (c : Certificate) (required : Tls.KeyPurpose) :
    Nameless (checkPurpose c required) := by
  unfold checkPurpose
  split <;> simp [isAboutName]

@[simp] theorem nameless_checkAlone (q : Question) (head : Certificate)
    (below : List Certificate) : Nameless (checkAlone q head below) := by
  simp [checkAlone, isAboutName]

/-! ### Signatures -/

@[simp] theorem nameless_checkMessage (algorithms : List Signature.Algorithm)
    (publicKey message signature : Bytes) :
    Nameless (checkMessage algorithms publicKey message signature) := by
  unfold checkMessage
  simp only [nameless_bind, nameless_readKey, true_and]
  rintro key -
  split <;> simp [isAboutName]

@[simp] theorem nameless_checkSignature (algorithms : List Signature.Algorithm) (issuerKey : Bytes)
    (c : Certificate) : Nameless (checkSignature algorithms issuerKey c) := by
  unfold checkSignature
  split <;> simp [isAboutName]

@[simp] theorem nameless_checkSignatures (algorithms : List Signature.Algorithm) (key : Bytes)
    (path : List Certificate) (left : ℕ) :
    Nameless (checkSignatures algorithms key path left).1 := by
  fun_induction checkSignatures algorithms key path left with
  | case1 => simp
  | case2 => simp [isAboutName]
  | case3 key c below left e he =>
    exact (nameless_error e).mpr (nameless_checkSignature _ _ _ e he)
  | case4 _ _ _ _ _ ih => exact ih

end Path

/-! ### Constraints on names -/

namespace NameConstraints

@[simp] theorem nameless_under (ended : Bool) (octets network mask : Bytes) :
    Nameless (under ended octets network mask) := by
  fun_induction under ended octets network mask <;> simp_all [isAboutName]

@[simp] theorem nameless_addressWithin (octets network : Bytes) :
    Nameless (addressWithin octets network) := by
  simp [addressWithin, isAboutName]

theorem nameless_matches {subtrees : Subtrees} {name base : GeneralName}
    {r : Except CertificateError Bool} (h : matches? subtrees name base = some r) :
    Nameless r := by
  unfold matches? at h
  split at h
  · split at h
    · cases h
      simp [isAboutName]
    · split at h <;> cases h <;> simp [isAboutName]
  · cases h
    simp
  · cases h
    simp
  · cases h
    simp
  · split at h
    · cases h
      simp [isAboutName]
    · cases h
  · cases h

@[simp] theorem nameless_nameOf (body : Bytes) : Nameless (nameOf body) := by
  simp [nameOf]

@[simp] theorem nameless_compareOne (subtrees : Subtrees) (name : GeneralName) (found : Findings)
    (body : Bytes) : Nameless (compareOne subtrees name found body) := by
  unfold compareOne
  simp only [nameless_bind, nameless_nameOf, true_and]
  rintro base -
  split
  · simp
  · next r hr =>
    have := nameless_matches hr
    simp [this, isAboutName]

@[simp] theorem nameless_compare (subtrees : Subtrees) (name : GeneralName) (found : Findings)
    (b : Bytes) (left : ℕ) : Nameless (compare subtrees name found b left).1 := by
  fun_induction compare subtrees name found b left with
  | case1 => simp
  | case2 => simp [isAboutName]
  | case3 => simp
  | case4 found b _ left body rest _ e he =>
    exact (nameless_error e).mpr (nameless_compareOne _ _ _ _ e he)
  | case5 _ _ _ _ _ _ _ _ _ ih => exact ih

@[simp] theorem nameless_judgeList (subtrees : Subtrees) (name : GeneralName) (list : Option Bytes)
    (left : ℕ) : Nameless (judgeList subtrees name list left).1 := by
  unfold judgeList
  split
  · simp
  · next b =>
    have hc := nameless_compare subtrees name ⟨false, false⟩ b left
    rcases hr : compare subtrees name ⟨false, false⟩ b left with ⟨e | found, left⟩
    · rw [hr] at hc
      exact (nameless_error e).mpr (hc e rfl)
    · simp [Except.bind, isAboutName]

@[simp] theorem nameless_judge (c : Constraint) (name : GeneralName) (left : ℕ) :
    Nameless (judge c name left).1 := by
  unfold judge
  split
  · simp
  · simp

@[simp] theorem nameless_judgeAll (c : Constraint) (names : List (Option GeneralName)) (left : ℕ) :
    Nameless (judgeAll c names left).1 := by
  fun_induction judgeAll c names left with
  | case1 => simp
  | case2 => simp
  | case3 _ _ _ _ _ ih => exact ih
  | case4 => simp

@[simp] theorem nameless_constraint (constraint : Option Bytes) (below : List Certificate)
    (left : ℕ) : Nameless (check constraint below left).1 := by
  unfold check
  split
  · simp
  · split
    · simp
    · split <;> simp

end NameConstraints

/-! ### Looking for a path -/

namespace Path

@[simp] theorem nameless_checkNames (constraint : Option Bytes) (path : List Certificate)
    (left : ℕ) : Nameless (checkNames constraint path left).1 := by
  fun_induction checkNames constraint path left with
  | case1 => simp
  | case2 _ _ _ _ _ _ ih => exact ih
  | case3 => simp

@[simp] theorem nameless_endsAt (q : Question) (head : Certificate) (below : List Certificate)
    (anchor : TrustAnchor) (budget : Budget) :
    Nameless (endsAt q head below anchor budget).1 := by
  unfold endsAt
  split
  · simp [isAboutName]
  · split
    · next e _ he =>
      have hs := nameless_checkSignatures q.algorithms anchor.publicKey (head :: below)
        budget.signatures
      rw [he] at hs
      exact (nameless_error e).mpr (hs e rfl)
    · simp

theorem isAboutName_moreTelling {e f : CertificateError} (he : isAboutName e = false)
    (hf : isAboutName f = false) : isAboutName (moreTelling e f) = false := by
  unfold moreTelling
  split <;> assumption

theorem nameless_firstGood {attempt : α → Budget → Outcome}
    (h : ∀ a budget, Nameless (attempt a budget).1) {e : CertificateError}
    (he : isAboutName e = false) (candidates : List α) (budget : Budget) :
    Nameless (firstGood attempt e candidates budget).1 := by
  fun_induction firstGood attempt e candidates budget with
  | case1 => simpa using he
  | case2 => simp
  | case3 e a rest budget f left hf _ =>
    refine (nameless_error f).mpr (h a budget f ?_)
    rw [hf]
  | case4 e a rest budget f left hf _ ih =>
    refine ih (isAboutName_moreTelling he (h a budget f ?_))
    rw [hf]

theorem nameless_extend {next : Certificate → List Certificate → Budget → Outcome}
    (h : ∀ c below budget, Nameless (next c below budget).1) (head : Certificate)
    (below : List Certificate) (candidate : Bytes) (budget : Budget) :
    Nameless (extend next head below candidate budget).1 := by
  unfold extend
  split
  · next e he => exact (nameless_error e).mpr (nameless_read _ _ e he)
  · split
    · simp [isAboutName]
    · split
      · simp [isAboutName]
      · split
        · simp [isAboutName]
        · exact h _ _ _

theorem nameless_level (q : Question) {next : Certificate → List Certificate → Budget → Outcome}
    (h : ∀ c below budget, Nameless (next c below budget).1) (head : Certificate)
    (below : List Certificate) (budget : Budget) : Nameless (level q next head below budget).1 := by
  have hends :=
    nameless_firstGood (nameless_endsAt q head below) (e := .unknownIssuer) rfl q.anchors
    budget
  unfold level
  split
  · next e he => exact (nameless_error e).mpr (nameless_checkAlone _ _ _ e he)
  · split
    · simp
    · next e left he =>
      rw [he] at hends
      have he' : isAboutName e = false := hends e rfl
      split
      · simpa using he'
      · exact nameless_firstGood (nameless_extend h head below) he' _ _

theorem nameless_build (q : Question) (room : ℕ) (head : Certificate) (below : List Certificate)
    (budget : Budget) : Nameless (build q room head below budget).1 := by
  induction room generalizing head below budget with
  | zero => exact nameless_level q (by simp [isAboutName]) head below budget
  | succ room ih => exact nameless_level q ih head below budget

@[simp] theorem nameless_verify (q : Question) (c : Certificate) : Nameless (verify q c) := by
  unfold verify
  rw [nameless_map]
  exact nameless_build q maxIntermediates c [] .full

end Path

end X509

/-! ### The strict judgement -/

namespace Verifier

theorem isAboutName_iff {e : CertificateError} :
    isAboutName e = true ↔ (∃ server presented, e = .notValidForName server presented) ∨
      e = .named "NotValidForName" := by
  cases e <;> simp [isAboutName]

/-- **An error about the name comes after a path was found.** -/
theorem path_of_aboutName {roots : List X509.TrustAnchor} {algorithms : List Signature.Algorithm}
    {p : Presented} {e : CertificateError} (h : judgeStrictly roots algorithms p = .error e)
    (hn : isAboutName e = true) :
    ∃ certificate, X509.Certificate.read .refuse p.endEntity = .ok certificate ∧
      X509.Path.verify ⟨algorithms, roots, p.intermediates, .serverAuth, p.now⟩ certificate =
        .ok () ∧
      X509.Subject.check certificate p.server = .error e := by
  unfold judgeStrictly at h
  cases hr : X509.Certificate.read .refuse p.endEntity with
  | error x =>
    rw [hr] at h
    cases h
    rw [X509.nameless_read _ _ _ hr] at hn
    cases hn
  | ok certificate =>
    rw [hr] at h
    simp only [bind, Except.bind] at h
    cases hv : X509.Path.verify ⟨algorithms, roots, p.intermediates, .serverAuth, p.now⟩
        certificate with
    | error x =>
      rw [hv] at h
      cases h
      rw [X509.Path.nameless_verify _ _ _ hv] at hn
      cases hn
    | ok u =>
      rw [hv] at h
      exact ⟨certificate, rfl, hv, h⟩

end Verifier

end SecureStream
