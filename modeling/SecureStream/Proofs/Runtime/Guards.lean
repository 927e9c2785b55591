import SecureStream.Registry
import Mathlib.Algebra.Group.Nat.Defs
import Mathlib.Data.List.Basic
import Mathlib.Tactic.Common

/-! # Guards of the runtime

Threads take guards of the runtime and give them up, ask whether there are any, and look for the
provider (`Event`). Each of these is one step under the lock of the registry (`act`), so what
several threads do is one sequence of steps in some order (`Steps`).

* `Tracks`: the registry counts the guards that are alive. Every step keeps it (`tracks_of_act`).
* `Serves`: the registry holds one provider. Every step after which a guard is alive keeps it
  (`serves_of_act`).
* `guards_counted`: what follows for all runs. -/

namespace SecureStream.Runtime

variable {π τ : Type}

/-- **What a thread does with the runtime.** A guard goes by the number of the init that made it. -/
inductive Event (τ : Type)
  /-- Takes a guard with a source of random bytes. -/
  | init (thread : τ) (source : Entropy)
  /-- Gives a guard up. -/
  | drop (thread : τ) (guard : ℕ)
  /-- Asks whether there is a guard. -/
  | check (thread : τ)
  /-- Looks for the provider. -/
  | lookup (thread : τ)

/-- What the thread is told. -/
inductive Reply (π : Type)
  | taken (r : Except TransportError ℕ)
  | dropped
  | checked (initialized : Bool)
  | found (provider : Option π)

/-- **The registry and what the threads have of it.** -/
structure Shared (π : Type) where
  registry : Registry π
  /-- The guards that are alive, in whichever thread. -/
  guards : List ℕ
  /-- The providers that were handed out, oldest first. -/
  handles : List π
  /-- How often a guard was asked for. -/
  inits : ℕ

/-- Nobody has asked for anything. -/
def Shared.initial : Shared π := ⟨.empty, [], [], 0⟩

/-- **One step.** The init with number `n` makes its provider by `build n`. A guard that is not
alive cannot be given up. -/
def act (build : ℕ → Entropy → π) (s : Shared π) : Event τ → Option (Reply π × Shared π)
  | .init _ source =>
    match (s.registry.acquireSeeded source (build s.inits)).1 with
    | .ok registry =>
      some (.taken (.ok s.inits),
        { s with registry, guards := s.guards ++ [s.inits], inits := s.inits + 1 })
    | .error x => some (.taken (.error x), { s with inits := s.inits + 1 })
  | .drop _ g =>
    if g ∈ s.guards then
      some (.dropped, { s with registry := s.registry.release, guards := s.guards.erase g })
    else none
  | .check _ => some (.checked (decide (0 < s.registry.guards)), s)
  | .lookup _ =>
    some (.found s.registry.provider?,
      { s with handles := s.handles ++ s.registry.provider?.toList })

/-- **Steps one after the other**, with what the threads were told. `P` holds after each. -/
inductive Steps (build : ℕ → Entropy → π) (P : Shared π → Prop) :
    Shared π → List (Event τ × Reply π) → Shared π → Prop
  | refl (s) : Steps build P s [] s
  | step {s l t v r u} (h : Steps build P s l t) (ha : act build t v = some (r, u)) (hp : P u) :
    Steps build P s (l ++ [(v, r)]) u

/-- A guard is alive. -/
def Alive (s : Shared π) : Prop := s.guards ≠ []

instance (s : Shared π) : Decidable (Alive s) := inferInstanceAs (Decidable (s.guards ≠ []))

variable {build : ℕ → Entropy → π}

/-! ### Taking a guard -/

theorem acquireSeeded_of_some {r : Registry π} {p : π} (h : r.provider? = some p)
    (source : Entropy) (make : Entropy → π) :
    ∃ r', (r.acquireSeeded source make).1 = .ok r' ∧ r'.guards = r.guards + 1 ∧
      r'.provider? = some p := by
  obtain ⟨_ | i⟩ := r
  · cases h
  · cases h
    exact ⟨_, rfl, rfl, rfl⟩

theorem acquireSeeded_of_draw {r : Registry π} (h : r.provider? = none) {source left : Entropy}
    (hd : source.draw? = some left) (make : Entropy → π) :
    ∃ r', (r.acquireSeeded source make).1 = .ok r' ∧ r'.guards = 1 ∧
      r'.provider? = some (make left) := by
  obtain ⟨_ | i⟩ := r
  · refine ⟨⟨some ⟨1, make left, Nat.one_pos⟩⟩, ?_, rfl, rfl⟩
    simp [Registry.acquireSeeded, hd, Registry.acquire, Except.map]
  · cases h

theorem acquireSeeded_of_not_draw {r : Registry π} (h : r.provider? = none) {source : Entropy}
    (hd : source.draw? = none) (make : Entropy → π) :
    (r.acquireSeeded source make).1 = .error Entropy.seedFailure := by
  obtain ⟨_ | i⟩ := r
  · simp [Registry.acquireSeeded, hd, Registry.acquire, Except.map]
  · cases h

theorem provider?_release {r : Registry π} (h : 1 < r.guards) :
    r.release.provider? = r.provider? := by
  obtain ⟨_ | i⟩ := r
  · rfl
  · have hi : i.guards ≠ 1 := Nat.ne_of_gt h
    simp only [Registry.release, dif_neg hi]
    rfl

/-! ### Counting -/

/-- **The registry counts the guards that are alive**, and no two guards are the same. -/
structure Tracks (s : Shared π) : Prop where
  count : s.registry.guards = s.guards.length
  nodup : s.guards.Nodup
  /-- The next guard is a new one. -/
  fresh : ∀ g ∈ s.guards, g < s.inits

theorem tracks_initial : Tracks (.initial : Shared π) :=
  ⟨rfl, List.nodup_nil, fun _ hg => absurd hg List.not_mem_nil⟩

theorem Tracks.provider?_eq_none_iff {s : Shared π} (h : Tracks s) :
    s.registry.provider? = none ↔ s.guards = [] := by
  rw [Registry.provider?_eq_none_iff, h.count, List.length_eq_zero_iff]

theorem Tracks.isSome_iff {s : Shared π} (h : Tracks s) :
    s.registry.provider?.isSome ↔ Alive s := by
  rw [← Option.ne_none_iff_isSome, ne_eq, h.provider?_eq_none_iff, Alive]

theorem Tracks.not_mem_guards {s : Shared π} (h : Tracks s) : s.inits ∉ s.guards :=
  fun hg => Nat.lt_irrefl _ (h.fresh _ hg)

theorem Tracks.taken {s : Shared π} (h : Tracks s) {registry : Registry π}
    (hr : registry.guards = s.guards.length + 1) :
    Tracks { s with registry, guards := s.guards ++ [s.inits], inits := s.inits + 1 } where
  count := by rw [hr, List.length_append]; rfl
  nodup := by
    rw [List.nodup_append]
    refine ⟨h.nodup, List.nodup_cons.mpr ⟨List.not_mem_nil, List.nodup_nil⟩,
      fun g hg g' hg' he => h.not_mem_guards ?_⟩
    rwa [← List.mem_singleton.mp hg', ← he]
  fresh g hg := by
    rcases List.mem_append.mp hg with hg | hg
    · exact Nat.lt_succ_of_lt (h.fresh g hg)
    · rw [List.mem_singleton.mp hg]; exact Nat.lt_succ_self _

theorem Tracks.dropped {s : Shared π} (h : Tracks s) {g : ℕ} (hg : g ∈ s.guards) :
    Tracks { s with registry := s.registry.release, guards := s.guards.erase g } where
  count := by rw [Registry.guards_release, h.count, List.length_erase_of_mem hg]
  nodup := h.nodup.erase g
  fresh x hx := h.fresh x (List.mem_of_mem_erase hx)

/-! ### What a step can do -/

/-- **What a step comes to**, by the guards that are alive. -/
inductive Acts (build : ℕ → Entropy → π) (s : Shared π) :
    Event τ → Reply π → Shared π → Prop
  /-- A guard beside others. -/
  | joins {i source registry} (ha : Alive s) (hg : registry.guards = s.guards.length + 1)
      (hp : registry.provider? = s.registry.provider?) :
      Acts build s (.init i source) (.taken (.ok s.inits))
        { s with registry, guards := s.guards ++ [s.inits], inits := s.inits + 1 }
  /-- The first guard, with a provider made from what is left of the source. -/
  | raises {i source left registry} (ha : ¬Alive s) (hd : source.draw? = some left)
      (hg : registry.guards = s.guards.length + 1)
      (hp : registry.provider? = some (build s.inits left)) :
      Acts build s (.init i source) (.taken (.ok s.inits))
        { s with registry, guards := s.guards ++ [s.inits], inits := s.inits + 1 }
  /-- No guard, and the source fails. -/
  | fails {i source} (ha : ¬Alive s) (hd : source.draw? = none) :
      Acts build s (.init i source) (.taken (.error Entropy.seedFailure))
        { s with inits := s.inits + 1 }
  | drops {i g} (hg : g ∈ s.guards) :
      Acts build s (.drop i g) .dropped
        { s with registry := s.registry.release, guards := s.guards.erase g }
  | checks {i} : Acts build s (.check i) (.checked (decide (Alive s))) s
  | finds {i} : Acts build s (.lookup i) (.found s.registry.provider?)
      { s with handles := s.handles ++ s.registry.provider?.toList }

/-- **A step comes to nothing else.** -/
theorem acts_of_act {s t : Shared π} (h : Tracks s) {v : Event τ} {r : Reply π}
    (ha : act build s v = some (r, t)) : Acts build s v r t := by
  cases v with
  | init i source =>
    simp only [act] at ha
    cases hp : s.registry.provider? with
    | some p =>
      have hs : Alive s := h.isSome_iff.mp (by rw [hp]; rfl)
      obtain ⟨r', hr, hg, hp'⟩ := acquireSeeded_of_some hp source (build s.inits)
      simp only [hr, Option.some.injEq, Prod.mk.injEq] at ha
      obtain ⟨rfl, rfl⟩ := ha
      exact .joins hs (by rw [hg, h.count]) (by rw [hp', hp])
    | none =>
      have hs : ¬Alive s := fun hs => hs (h.provider?_eq_none_iff.mp hp)
      have hz : s.guards.length = 0 := by rw [h.provider?_eq_none_iff.mp hp]; rfl
      cases hd : source.draw? with
      | some left =>
        obtain ⟨r', hr, hg, hp'⟩ := acquireSeeded_of_draw hp hd (build s.inits)
        simp only [hr, Option.some.injEq, Prod.mk.injEq] at ha
        obtain ⟨rfl, rfl⟩ := ha
        exact .raises hs hd (by rw [hg, hz]) hp'
      | none =>
        simp only [acquireSeeded_of_not_draw hp hd, Option.some.injEq, Prod.mk.injEq] at ha
        obtain ⟨rfl, rfl⟩ := ha
        exact .fails hs hd
  | drop i g =>
    simp only [act] at ha
    split at ha
    · next hg => cases ha; exact .drops hg
    · cases ha
  | check i =>
    have hc : 0 < s.registry.guards ↔ Alive s := by
      rw [h.count, List.length_pos_iff, Alive]
    simp only [act, hc, Option.some.injEq, Prod.mk.injEq] at ha
    obtain ⟨rfl, rfl⟩ := ha
    exact .checks
  | lookup i => cases ha; exact .finds

/-- Every event but the drop of a guard that is not alive can happen. -/
theorem exists_act (build : ℕ → Entropy → π) (s : Shared π) {v : Event τ}
    (h : ∀ i g, v = .drop i g → g ∈ s.guards) : ∃ r t, act build s v = some (r, t) := by
  cases v with
  | init i source =>
    simp only [act]
    cases (s.registry.acquireSeeded source (build s.inits)).1 with
    | ok registry => exact ⟨_, _, rfl⟩
    | error x => exact ⟨_, _, rfl⟩
  | drop i g => exact ⟨_, _, if_pos (h i g rfl)⟩
  | check i => exact ⟨_, _, rfl⟩
  | lookup i => exact ⟨_, _, rfl⟩

/-- **One step.** -/
theorem tracks_of_act {s t : Shared π} (h : Tracks s) {v : Event τ} {r : Reply π}
    (ha : act build s v = some (r, t)) : Tracks t := by
  cases acts_of_act h ha with
  | joins _ hg _ => exact h.taken hg
  | raises _ _ hg _ => exact h.taken hg
  | fails _ _ => exact ⟨h.count, h.nodup, fun g hg => Nat.lt_succ_of_lt (h.fresh g hg)⟩
  | drops hg => exact h.dropped hg
  | checks => exact h
  | finds => exact ⟨h.count, h.nodup, h.fresh⟩

/-- **Any number of steps**, by induction over them. -/
theorem tracks_of_steps {P : Shared π → Prop} {s t : Shared π} {l : List (Event τ × Reply π)}
    (h : Tracks s) (hs : Steps build P s l t) : Tracks t := by
  induction hs with
  | refl => exact h
  | step _ ha _ ih => exact tracks_of_act ih ha

/-! ### One provider -/

/-- The provider of the registry is `p`. -/
def Serves (p : π) (s : Shared π) : Prop := s.registry.provider? = some p

theorem serves_of_act {p : π} {s t : Shared π} (h : Tracks s) (hp : Serves p s) {v : Event τ}
    {r : Reply π} (ha : act build s v = some (r, t)) (ht : Alive t) : Serves p t := by
  have hs : Alive s := h.isSome_iff.mp (by rw [hp]; rfl)
  cases acts_of_act h ha with
  | joins _ _ hp' => exact hp'.trans hp
  | raises hn _ _ _ | fails hn _ => exact absurd hs hn
  | drops hg =>
    -- another guard is alive after the drop, so this was not the last one
    have hlt : 1 < s.registry.guards := by
      have := List.length_pos_iff.mpr ht
      rw [List.length_erase_of_mem hg] at this
      rw [h.count]
      omega
    exact (provider?_release hlt).trans hp
  | checks => exact hp
  | finds => exact hp

/-- **A provider serves all lookups** up to the moment at which no guard is alive. -/
theorem serves_of_steps {p : π} {s t : Shared π} (h : Tracks s) (hp : Serves p s)
    {l : List (Event τ × Reply π)} (hs : Steps build Alive s l t) :
    Serves p t ∧ ∀ i q, (Event.lookup i, Reply.found q) ∈ l → q = some p := by
  induction hs with
  | refl => exact ⟨hp, fun _ _ hm => absurd hm List.not_mem_nil⟩
  | @step l t v r u hs ha hu ih =>
    obtain ⟨ht, hl⟩ := ih
    refine ⟨serves_of_act (tracks_of_steps h hs) ht ha hu, fun i q hm => ?_⟩
    rcases List.mem_append.mp hm with hm | hm
    · exact hl i q hm
    · obtain ⟨rfl, rfl⟩ := Prod.mk.inj (List.mem_singleton.mp hm)
      cases ha
      exact ht

/-! ### Handles -/

theorem handles_of_act {s t : Shared π} {v : Event τ} {r : Reply π}
    (ha : act build s v = some (r, t)) : s.handles <+: t.handles := by
  cases v with
  | init i source =>
    simp only [act] at ha
    split at ha <;> cases ha <;> exact List.prefix_rfl
  | drop i g =>
    simp only [act] at ha
    split at ha
    · cases ha; exact List.prefix_rfl
    · cases ha
  | check i => cases ha; exact List.prefix_rfl
  | lookup i => cases ha; exact List.prefix_append _ _

/-- **What was handed out stays as it is.** -/
theorem handles_of_steps {P : Shared π → Prop} {s t : Shared π} {l : List (Event τ × Reply π)}
    (hs : Steps build P s l t) : s.handles <+: t.handles := by
  induction hs with
  | refl => exact List.prefix_rfl
  | step _ ha _ ih => exact ih.trans (handles_of_act ha)

/-! ### All runs -/

/-- **What holds of the runtime at every moment.** -/
structure Consistent (τ : Type) (build : ℕ → Entropy → π) (s : Shared π) : Prop where
  /-- The count is the number of guards that are alive, -/
  count : s.registry.guards = s.guards.length
  /-- and fits into 64 bits as long as that number does. -/
  fits : s.guards.length < 2 ^ 64 → (UInt64.ofNat s.registry.guards).toNat = s.guards.length
  /-- There is a provider exactly while a guard is alive. -/
  installed : s.registry.provider?.isSome ↔ Alive s
  /-- An init fails exactly without a guard and with a source that fails, and then changes neither
  the registry nor what the threads have. Else there is one guard more. -/
  init : ∀ (i : τ) source, ∃ r t, act build s (.init i source) = some (.taken r, t) ∧
    (r = .error Entropy.seedFailure ∧ ¬Alive s ∧ source.draw? = none ∧
        t.registry = s.registry ∧ t.guards = s.guards ∧ t.handles = s.handles ∨
      ∃ g, r = .ok g ∧ (Alive s ∨ source.draw? ≠ none) ∧
        t.guards = s.guards ++ [g] ∧ g ∉ s.guards ∧ t.registry.guards = s.registry.guards + 1)
  /-- Giving up a guard lowers the count by one. -/
  drop : ∀ (i : τ), ∀ g ∈ s.guards, ∃ t, act build s (.drop i g) = some (.dropped, t) ∧
    t.guards = s.guards.erase g ∧ g ∉ t.guards ∧ t.registry.guards + 1 = s.registry.guards
  /-- The runtime is initialized exactly while a guard is alive. -/
  check : ∀ i : τ, act build s (.check i) = some (.checked (decide (Alive s)), s)
  /-- The init that raises the count from zero makes the provider from its own source; as long as
  a guard is alive from then on, every lookup finds this one. -/
  serve : ∀ (i : τ) source g t, ¬Alive s → act build s (.init i source) = some (.taken (.ok g), t) →
    ∃ left, source.draw? = some left ∧ ∀ (l : List (Event τ × Reply π)) u,
      Steps build Alive t l u → u.registry.provider? = some (build g left) ∧
        ∀ j q, (.lookup j, .found q) ∈ l → q = some (build g left)
  /-- What was handed out stays. -/
  handles : ∀ P (l : List (Event τ × Reply π)) u, Steps build P s l u → s.handles <+: u.handles

theorem Tracks.init {s : Shared π} (h : Tracks s) (build : ℕ → Entropy → π) (i : τ)
    (source : Entropy) :
    ∃ r t, act build s (.init i source) = some (.taken r, t) ∧
      (r = .error Entropy.seedFailure ∧ ¬Alive s ∧ source.draw? = none ∧
          t.registry = s.registry ∧ t.guards = s.guards ∧ t.handles = s.handles ∨
        ∃ g, r = .ok g ∧ (Alive s ∨ source.draw? ≠ none) ∧
          t.guards = s.guards ++ [g] ∧ g ∉ s.guards ∧
          t.registry.guards = s.registry.guards + 1) := by
  obtain ⟨r, t, ha⟩ := exists_act build s (v := .init i source) (by simp)
  rw [ha]
  cases acts_of_act h ha with
  | joins hs hg _ =>
    exact ⟨_, _, rfl, .inr ⟨_, rfl, .inl hs, rfl, h.not_mem_guards, by rw [hg, h.count]⟩⟩
  | raises _ hd hg _ =>
    exact ⟨_, _, rfl, .inr ⟨_, rfl, .inr (by simp [hd]), rfl, h.not_mem_guards,
      by rw [hg, h.count]⟩⟩
  | fails hs hd => exact ⟨_, _, rfl, .inl ⟨rfl, hs, hd, rfl, rfl, rfl⟩⟩

/-- **The runtime keeps account of its guards.** Whatever any number of threads do with it, in
whichever order, at every moment the count is the number of guards that are alive and the provider
is there exactly while there are some; one provider serves all lookups from the init that raised the
count from zero up to the drop that brings it back there, and an init fails only where it would have
to raise the count and its source fails. -/
theorem guards_counted {l : List (Event τ × Reply π)} {s : Shared π}
    (h : Steps build (fun _ => True) .initial l s) : Consistent τ build s := by
  have ht := tracks_of_steps tracks_initial h
  refine ⟨ht.count, fun hlt => ?_, ht.isSome_iff, ht.init build, fun i g hg => ?_, fun i => ?_,
    fun i source g t hs ha => ?_, fun P l u hs => handles_of_steps hs⟩
  · rw [ht.count, UInt64.toNat_ofNat_of_lt' hlt]
  · have hpos := List.length_pos_of_mem hg
    refine ⟨_, if_pos hg, rfl, ht.nodup.not_mem_erase, ?_⟩
    rw [(ht.dropped hg).count, ht.count, List.length_erase_of_mem hg]
    omega
  · obtain ⟨r, t, ha⟩ := exists_act build s (v := .check i) (by simp)
    rw [ha]
    cases acts_of_act ht ha with
    | checks => rfl
  · cases acts_of_act ht ha with
    | joins hs' _ _ => exact absurd hs' hs
    | @raises _ _ left _ _ hd _ hp =>
      exact ⟨left, hd, fun l u hl => serves_of_steps (tracks_of_act ht ha) hp hl⟩

/-- A second thread joins with a source that fails and outlives the first: the provider of the first
is still there, and any thread may join. -/
theorem guards_counted_outlived :
    ∃ (l : List (Event ℕ × Reply (ℕ × Entropy))) (s : Shared (ℕ × Entropy)),
      Steps Prod.mk (fun _ => True) .initial l s ∧
      l.map Prod.fst = [.init 0 (.limited 1), .init 1 (.limited 0), .drop 0 0, .lookup 1] ∧
      s.guards = [1] ∧ s.handles = [(0, .limited 0)] ∧
      s.registry.guards = 1 ∧ s.registry.provider?.isSome ∧
      ∃ g t, act Prod.mk s (.init 2 (.limited 0)) = some (.taken (.ok g), t) ∧
        t.registry.guards = 2 := by
  let held (n : ℕ) (h : 0 < n) : Registry (ℕ × Entropy) := ⟨some ⟨n, (0, .limited 0), h⟩⟩
  have first : Steps Prod.mk (fun _ => True) .initial
      [(.init 0 (.limited 1), .taken (.ok 0))] ⟨held 1 (by decide), [0], [], 1⟩ :=
    (Steps.refl _).step rfl trivial
  have second := first.step (v := .init 1 (.limited 0)) (r := .taken (.ok 1))
    (u := ⟨held 2 (by decide), [0, 1], [], 2⟩) rfl trivial
  have third := second.step (v := .drop 0 0) (r := .dropped)
    (u := ⟨held 1 (by decide), [1], [], 2⟩) rfl trivial
  have fourth := third.step (v := .lookup 1) (r := .found (some (0, .limited 0)))
    (u := ⟨held 1 (by decide), [1], [(0, .limited 0)], 2⟩) rfl trivial
  have hc := guards_counted fourth
  have ha : Alive ⟨held 1 (by decide), [1], [(0, .limited 0)], 2⟩ := List.cons_ne_nil 1 []
  obtain ⟨r, t, hi, ⟨-, hn, -⟩ | ⟨g, rfl, -, -, -, hg⟩⟩ := hc.init 2 (.limited 0)
  · exact absurd ha hn
  · exact ⟨_, _, fourth, rfl, rfl, rfl, hc.count, hc.installed.mpr ha, g, t, hi, hg⟩

end SecureStream.Runtime
