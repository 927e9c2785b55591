import SecureStream.Provider
import Mathlib.Tactic.Common

/-! # Suite B

A process keeps what it narrowed to Suite B first: the algorithms in one cell and the schemes in
another, which is filled from the first one by search and slices (`Cells`, `restrictKept`). As long
as the providers share a table the cells make no difference (`restrictKept_eq`), whatever is asked
for first.

What a narrowed table holds is said without the search (`FirstOf`, `Narrowed`): of each of the two
pairs of identifiers the first entry, each under its scheme. It follows for every series of calls on
providers with the same algorithms. -/

namespace SecureStream

open Signature

/-- The identifiers of the keys and of the signatures of an algorithm. -/
def Signature.Algorithm.identifiers (a : Algorithm) : Bytes × Bytes := (a.publicKey, a.signature)

namespace CertificateProfile

/-! ### What is kept -/

/-- **What a process keeps of the first narrowing**: the algorithms, and the schemes with those of
each. A cell that is filled stays as it is. -/
structure Cells where
  algorithms : Option (List Algorithm)
  schemes : Option (List (Scheme × List Algorithm))

/-- Nothing was narrowed yet. -/
def Cells.empty : Cells := ⟨none, none⟩

/-- The schemes whose pair is there, each with the slice of one algorithm that is its own. -/
def slices (all : List Algorithm) : List (Scheme × List Algorithm) :=
  suiteBPairs.filterMap fun p =>
    (all.findIdx? (hasIdentifiersOf · p.2)).map fun i => (p.1, all.extract i (i + 1))

/-- **A provider narrowed to a profile**, by what is kept where something is kept. -/
def restrictKept : CertificateProfile → Provider → Cells → Provider × Cells
  | default, p, c => (p, c)
  | suiteB, p, c =>
    let algorithms := c.algorithms.getD (suiteBAlgorithms p.signatures)
    let schemes := c.schemes.getD (slices algorithms)
    ({ p with signatures := ⟨algorithms, schemes⟩ }, ⟨some algorithms, some schemes⟩)

/-- Narrows one provider after the other. -/
def restrictEach : List (CertificateProfile × Provider) → Cells → List Provider × Cells
  | [], c => ([], c)
  | (profile, p) :: rest, c =>
    let (r, c) := restrictKept profile p c
    let (rs, c) := restrictEach rest c
    (r :: rs, c)

/-! ### What is kept makes no difference -/

/-- The slice at the place of an entry holds the entry. -/
theorem map_extract_findIdx? {α : Type} (p : α → Bool) (l : List α) :
    (l.findIdx? p).map (fun i => l.extract i (i + 1)) = (l.find? p).map fun a => [a] := by
  induction l with
  | nil => rfl
  | cons a l ih =>
    rw [List.findIdx?_cons, List.find?_cons]
    cases p a with
    | true => simp
    | false =>
      simp only [Bool.false_eq_true, if_false, ← ih, Option.map_map]
      refine congrArg (Option.map · _) (funext fun i => ?_)
      simp

theorem slices_eq (all : List Algorithm) :
    slices all = suiteBPairs.filterMap fun p =>
      (all.find? (hasIdentifiersOf · p.2)).map fun a => (p.1, [a]) := by
  unfold slices
  refine congrArg (List.filterMap · suiteBPairs) (funext fun p => ?_)
  have h := map_extract_findIdx? (hasIdentifiersOf · p.2) all
  have hp := congrArg (Option.map (Prod.mk p.1)) h
  simp only [Option.map_map] at hp
  exact hp

theorem schemes_suiteBTable (t : Table) : (suiteBTable t).schemes = slices (suiteBAlgorithms t) :=
  (slices_eq _).symm

/-- What is kept is that of the table `t`. -/
structure Cells.Holds (t : Table) (c : Cells) : Prop where
  algorithms : c.algorithms.getD (suiteBAlgorithms t) = suiteBAlgorithms t
  schemes : c.schemes.getD (slices (suiteBAlgorithms t)) = slices (suiteBAlgorithms t)

theorem Cells.holds_empty (t : Table) : Cells.empty.Holds t := ⟨rfl, rfl⟩

theorem suiteBAlgorithms_congr {t u : Table} (h : t.algorithms = u.algorithms) :
    suiteBAlgorithms t = suiteBAlgorithms u := by
  unfold suiteBAlgorithms
  rw [h]

/-- **One call** gives what the provider is narrowed to, and what is kept stays that of the table. -/
theorem restrictKept_eq {t : Table} {p : Provider} (hp : p.signatures.algorithms = t.algorithms)
    {c : Cells} (hc : c.Holds t) (profile : CertificateProfile) :
    (restrictKept profile p c).1 = profile.restrict p ∧ (restrictKept profile p c).2.Holds t := by
  cases profile with
  | default => exact ⟨rfl, hc⟩
  | suiteB =>
    have ht : suiteBTable p.signatures = ⟨suiteBAlgorithms t, slices (suiteBAlgorithms t)⟩ := by
      rw [← suiteBAlgorithms_congr hp, ← schemes_suiteBTable]
      rfl
    simp only [restrictKept, suiteBAlgorithms_congr hp, hc.algorithms, hc.schemes]
    exact ⟨by rw [restrict, ht], ⟨rfl, rfl⟩⟩

/-- **A series of calls** on providers that share a table. -/
theorem restrictEach_eq {t : Table} {calls : List (CertificateProfile × Provider)}
    (h : ∀ call ∈ calls, call.2.signatures.algorithms = t.algorithms) {c : Cells} (hc : c.Holds t) :
    (restrictEach calls c).1 = calls.map fun call => call.1.restrict call.2 := by
  induction calls generalizing c with
  | nil => rfl
  | cons call rest ih =>
    obtain ⟨hcall, hrest⟩ := List.forall_mem_cons.mp h
    obtain ⟨hr, hk⟩ := restrictKept_eq hcall hc call.1
    have hrs := ih hrest hk
    simp only [restrictEach, List.map_cons, hr, hrs]

/-! ### What a narrowed table holds -/

/-- The identifiers of P-256 with SHA-256. -/
def p256Sha256 : Bytes × Bytes := (ecKey .p256, ecdsaSignature .sha256)

/-- The identifiers of P-384 with SHA-384. -/
def p384Sha384 : Bytes × Bytes := (ecKey .p384, ecdsaSignature .sha384)

/-- **The first entry with a pair of identifiers**, if there is one. -/
inductive FirstOf (pair : Bytes × Bytes) (l : List Algorithm) : List Algorithm → Prop
  | absent (h : ∀ a ∈ l, a.identifiers ≠ pair) : FirstOf pair l []
  | found {l₁ a l₂} (hl : l = l₁ ++ a :: l₂) (ha : a.identifiers = pair)
      (h : ∀ b ∈ l₁, b.identifiers ≠ pair) : FirstOf pair l [a]

/-- **A table narrowed from the entries `l`.** -/
structure Narrowed (l : List Algorithm) (t : Table) : Prop where
  /-- The first entry of each pair in their order, and each alone under the scheme of its pair. -/
  entries : ∃ first second, FirstOf p256Sha256 l first ∧ FirstOf p384Sha384 l second ∧
    t.algorithms = first ++ second ∧
    t.schemes = first.map (fun a => (.ecdsaP256Sha256, [a])) ++
      second.map fun a => (.ecdsaP384Sha384, [a])
  /-- No other entry, so none that crosses the pairs. -/
  paired : ∀ a ∈ t.algorithms,
    a ∈ l ∧ (a.identifiers = p256Sha256 ∨ a.identifiers = p384Sha384)
  /-- The schemes are those of the profile whose pair is among the entries. -/
  listed : ∀ s, s ∈ t.supportedSchemes ↔ suiteB.allows s ∧
    ((s = .ecdsaP256Sha256 ∧ ∃ a ∈ l, a.identifiers = p256Sha256) ∨
      (s = .ecdsaP384Sha384 ∧ ∃ a ∈ l, a.identifiers = p384Sha384))

theorem pairs_ne : p256Sha256 ≠ p384Sha384 := by decide

theorem hasIdentifiersOf_iff {a b : Algorithm} :
    hasIdentifiersOf a b = true ↔ a.identifiers = b.identifiers := by
  simp [hasIdentifiersOf, Algorithm.identifiers]

/-- **A search finds the first entry.** -/
theorem firstOf_find? (l : List Algorithm) (b : Algorithm) :
    FirstOf b.identifiers l (l.find? (hasIdentifiersOf · b)).toList := by
  cases h : l.find? (hasIdentifiersOf · b) with
  | none =>
    refine .absent fun a ha => ?_
    rw [ne_eq, ← hasIdentifiersOf_iff]
    exact List.find?_eq_none.mp h a ha
  | some a =>
    obtain ⟨ha, l₁, l₂, hl, hn⟩ := List.find?_eq_some_iff_append.mp h
    refine .found hl (hasIdentifiersOf_iff.mp ha) fun x hx => ?_
    rw [ne_eq, ← hasIdentifiersOf_iff]
    simpa using hn x hx

section
variable {pair : Bytes × Bytes} {l m : List Algorithm}

theorem FirstOf.mem (h : FirstOf pair l m) {a : Algorithm} (ha : a ∈ m) :
    a ∈ l ∧ a.identifiers = pair := by
  cases h with
  | absent _ => cases ha
  | found hl hp _ =>
    obtain rfl := List.mem_singleton.mp ha
    exact ⟨by rw [hl]; simp, hp⟩

theorem FirstOf.exists_mem_iff (h : FirstOf pair l m) :
    (∃ a, a ∈ m) ↔ ∃ a ∈ l, a.identifiers = pair := by
  refine ⟨fun ⟨a, ha⟩ => ⟨a, h.mem ha⟩, fun ⟨a, ha, hp⟩ => ?_⟩
  cases h with
  | absent hn => exact absurd hp (hn a ha)
  | @found _ b _ _ _ _ => exact ⟨b, List.mem_singleton_self b⟩

theorem FirstOf.find?_eq (h : FirstOf pair l m) {b : Algorithm} (hb : b.identifiers = pair) :
    m.find? (hasIdentifiersOf · b) = m.head? := by
  cases h with
  | absent _ => rfl
  | found _ ha _ => simp [hasIdentifiersOf_iff.mpr (ha.trans hb.symm)]

theorem FirstOf.find?_eq_none (h : FirstOf pair l m) {b : Algorithm} (hb : b.identifiers ≠ pair) :
    m.find? (hasIdentifiersOf · b) = none := by
  refine List.find?_eq_none.mpr fun a ha => ?_
  rw [hasIdentifiersOf_iff, (h.mem ha).2]
  exact hb.symm

end

/-- **The algorithms that are left**: what is found for one pair, and then for the other. -/
theorem suiteBAlgorithms_eq (t : Table) :
    suiteBAlgorithms t = (t.algorithms.find? (hasIdentifiersOf · (ecdsa .p256 .sha256))).toList ++
      (t.algorithms.find? (hasIdentifiersOf · (ecdsa .p384 .sha384))).toList := by
  unfold suiteBAlgorithms suiteBPairs
  simp only [List.filterMap_cons, List.filterMap_nil]
  cases t.algorithms.find? (hasIdentifiersOf · (ecdsa .p256 .sha256)) <;>
    cases t.algorithms.find? (hasIdentifiersOf · (ecdsa .p384 .sha384)) <;> rfl

/-- **The schemes that are left**, each with the first algorithm of its pair. -/
theorem slices_append {l first second : List Algorithm} (h₁ : FirstOf p256Sha256 l first)
    (h₂ : FirstOf p384Sha384 l second) :
    slices (first ++ second) = first.map (fun a => (.ecdsaP256Sha256, [a])) ++
      second.map fun a => (.ecdsaP384Sha384, [a]) := by
  have h₁₁ := h₁.find?_eq (b := ecdsa .p256 .sha256) rfl
  have h₁₂ := h₁.find?_eq_none (b := ecdsa .p384 .sha384) pairs_ne.symm
  have h₂₁ := h₂.find?_eq_none (b := ecdsa .p256 .sha256) pairs_ne
  have h₂₂ := h₂.find?_eq (b := ecdsa .p384 .sha384) rfl
  rw [slices_eq, suiteBPairs]
  simp only [List.filterMap_cons, List.filterMap_nil, List.find?_append, h₁₁, h₁₂, h₂₁, h₂₂,
    Option.or_none, Option.none_or]
  cases h₁ <;> cases h₂ <;> rfl

/-- **Narrowing a table.** -/
theorem narrowed_suiteBTable (t : Table) : Narrowed t.algorithms (suiteBTable t) := by
  have h₁ : FirstOf p256Sha256 t.algorithms _ := firstOf_find? t.algorithms (ecdsa .p256 .sha256)
  have h₂ : FirstOf p384Sha384 t.algorithms _ := firstOf_find? t.algorithms (ecdsa .p384 .sha384)
  have hs := schemes_suiteBTable t
  rw [suiteBAlgorithms_eq, slices_append h₁ h₂] at hs
  have ha : (suiteBTable t).algorithms = _ := suiteBAlgorithms_eq t
  refine ⟨⟨_, _, h₁, h₂, ha, hs⟩, fun a hm => ?_, fun s => ?_⟩
  · rw [ha] at hm
    exact (List.mem_append.mp hm).elim (fun h => ⟨(h₁.mem h).1, .inl (h₁.mem h).2⟩)
      fun h => ⟨(h₂.mem h).1, .inr (h₂.mem h).2⟩
  · have hm : s ∈ (suiteBTable t).supportedSchemes ↔
        (s = .ecdsaP256Sha256 ∧ ∃ a ∈ t.algorithms, a.identifiers = p256Sha256) ∨
          (s = .ecdsaP384Sha384 ∧ ∃ a ∈ t.algorithms, a.identifiers = p384Sha384) := by
      rw [← h₁.exists_mem_iff, ← h₂.exists_mem_iff, Table.supportedSchemes, hs, List.map_append,
        List.map_map, List.map_map]
      simp only [List.mem_append, List.mem_map, Function.comp_apply, eq_comm (b := s)]
      grind
    rw [hm]
    refine ⟨fun h => ⟨?_, h⟩, And.right⟩
    rcases h with ⟨rfl, -⟩ | ⟨rfl, -⟩ <;> rfl

theorem suiteBTable_congr {t u : Table} (h : t.algorithms = u.algorithms) :
    suiteBTable t = suiteBTable u := by
  simp only [suiteBTable, suiteBAlgorithms_congr h]

/-- **Suite B.** To every list of algorithms belongs one narrowed table. Every series of calls on
providers with these algorithms, whatever its order, gives a provider with that table and is
otherwise as it was, or where nothing is narrowed the provider itself. -/
theorem restrictEach_narrows (l : List Algorithm) :
    ∃ t, Narrowed l t ∧
      ∀ calls : List (CertificateProfile × Provider),
        (∀ call ∈ calls, call.2.signatures.algorithms = l) →
        ((restrictEach calls .empty).1 = calls.map fun call => call.1.restrict call.2) ∧
        ∀ call ∈ calls, call.1.restrict call.2 =
          match call.1 with
          | default => call.2
          | suiteB => { call.2 with signatures := t } := by
  refine ⟨suiteBTable ⟨l, []⟩, narrowed_suiteBTable ⟨l, []⟩, fun calls h => ⟨?_, ?_⟩⟩
  · exact restrictEach_eq h (Cells.holds_empty ⟨l, []⟩)
  · intro call hcall
    cases hp : call.1 with
    | default => rfl
    | suiteB => rw [restrict, suiteBTable_congr (u := ⟨l, []⟩) (h call hcall)]

/-- P-256 stands there with SHA-384 only, P-384 with SHA-384 twice. -/
theorem restrictEach_narrows_unpaired :
    let other : Algorithm := { ecdsa .p384 .sha384 with check := .ecdsa .p521 .sha512 }
    let l := [ecdsa .p256 .sha384, other, ecdsa .p384 .sha256, ecdsa .p384 .sha384]
    let p : Provider := ⟨Tls.Suite.ofVersion13, Tls.KeyGroup.standard, ⟨l, []⟩, .lasting⟩
    let q : Provider := ⟨[], [], ⟨l, [(.ecdsaP256Sha256, l)]⟩, .limited 3⟩
    let narrowed : Table := ⟨[other], [(.ecdsaP384Sha384, [other])]⟩
    Narrowed l narrowed ∧
      (restrictEach [(suiteB, p), (default, q), (suiteB, q)] .empty).1 =
        [{ p with signatures := narrowed }, q, { q with signatures := narrowed }] := by
  intro other l p q narrowed
  obtain ⟨t, ht, hall⟩ := restrictEach_narrows l
  have hcalls : ∀ call ∈ [(suiteB, p), (default, q), (suiteB, q)],
      call.2.signatures.algorithms = l := by simp [p, q]
  obtain ⟨hr, he⟩ := hall _ hcalls
  have hp : suiteB.restrict p = { p with signatures := t } := he (suiteB, p) (by simp)
  have hq : suiteB.restrict q = { q with signatures := t } := he (suiteB, q) (by simp)
  have hd : default.restrict q = q := he (default, q) (by simp)
  have hn : suiteB.restrict p = { p with signatures := narrowed } := by decide
  obtain rfl : t = narrowed := congrArg Provider.signatures (hp.symm.trans hn)
  refine ⟨ht, ?_⟩
  rw [hr]
  simp only [List.map_cons, List.map_nil, hp, hq, hd]

end CertificateProfile

end SecureStream
