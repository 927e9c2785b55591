import SecureStream.Proofs.Except
import SecureStream.TransportConfig.Members

/-! # The fields of a configuration

What a field holds (`Field.Content`), in a configuration and among the fields that are set so far,
so that the six fields are spoken of as one: to set a field is to read what its value stands for and
to put it there (`set_eq`), and a configuration is its fields (`ext_get`).

What a value stands for is said without the reader (`Field.Denotes`, `Field.Admits`), and
`Field.read_eq_ok_iff` ties the two together. -/

namespace SecureStream.TransportConfig

/-! ### Contents -/

/-- What a field holds. -/
abbrev Field.Content : Field → Type
  | .recvTimeout | .sendTimeout => Duration
  | .handshakeTimeout => Option Duration
  | .maxFragmentSize => Option ℕ
  | .profile => CertificateProfile
  | .family => AddressFamily

/-- What a field of a configuration holds. -/
def get (c : TransportConfig) : (f : Field) → f.Content
  | .recvTimeout => c.recvTimeout
  | .sendTimeout => c.sendTimeout
  | .handshakeTimeout => c.handshakeTimeout
  | .maxFragmentSize => c.maxFragmentSize
  | .profile => c.profile
  | .family => c.family

/-- **A configuration is its fields.** -/
theorem ext_get {c c' : TransportConfig} (h : ∀ f, c.get f = c'.get f) : c = c' := by
  obtain ⟨r, s, t, n, p, a⟩ := c
  have hr := h .recvTimeout
  have hs := h .sendTimeout
  have ht := h .handshakeTimeout
  have hn := h .maxFragmentSize
  have hp := h .profile
  have ha := h .family
  simp only [get] at hr hs ht hn hp ha
  subst hr hs ht hn hp ha
  rfl

namespace Overrides

/-- What a field is set to. -/
def get (o : Overrides) : (f : Field) → Option f.Content
  | .recvTimeout => o.recvTimeout
  | .sendTimeout => o.sendTimeout
  | .handshakeTimeout => o.handshakeTimeout
  | .maxFragmentSize => o.maxFragmentSize
  | .profile => o.profile
  | .family => o.family

/-- Puts something into a field. -/
def put (o : Overrides) : (f : Field) → f.Content → Overrides
  | .recvTimeout, d => { o with recvTimeout := some d }
  | .sendTimeout, d => { o with sendTimeout := some d }
  | .handshakeTimeout, d => { o with handshakeTimeout := some d }
  | .maxFragmentSize, n => { o with maxFragmentSize := some n }
  | .profile, p => { o with profile := some p }
  | .family, a => { o with family := some a }

/-- The overrides with these fields. -/
def ofGet (g : (f : Field) → Option f.Content) : Overrides :=
  ⟨g .recvTimeout, g .sendTimeout, g .handshakeTimeout, g .maxFragmentSize, g .profile, g .family⟩

@[simp] theorem get_ofGet (g : (f : Field) → Option f.Content) (f : Field) :
    (ofGet g).get f = g f := by
  cases f <;> rfl

theorem ofGet_get (o : Overrides) : ofGet o.get = o := rfl

theorem ext_get {o o' : Overrides} (h : ∀ f, o.get f = o'.get f) : o = o' := by
  rw [← ofGet_get o, ← ofGet_get o', funext h]

@[simp] theorem get_none (f : Field) : none.get f = .none := by
  cases f <;> rfl

@[simp] theorem get_put (o : Overrides) (f : Field) (a : f.Content) :
    (o.put f a).get f = some a := by
  cases f <;> rfl

theorem get_put_of_ne (o : Overrides) {f g : Field} (h : g ≠ f) (a : f.Content) :
    (o.put f a).get g = o.get g := by
  cases f <;> cases g <;> first | rfl | exact absurd rfl h

theorem isSet_eq (o : Overrides) (f : Field) : o.isSet f = (o.get f).isSome := by
  cases f <;> rfl

theorem get_apply (o : Overrides) (f : Field) :
    o.apply.get f = (o.get f).getD (defaults.get f) := by
  cases f <;> rfl

end Overrides

/-! ### Values -/

/-- What a value stands for. -/
def Field.read : (f : Field) → Json → Except Refusal f.Content
  | .recvTimeout, v | .sendTimeout, v => (wordOf "u64" v).map Duration.ofMillis
  | .handshakeTimeout, v => (optionalWordOf "u64" v).map fun n => n.map Duration.ofMillis
  | .maxFragmentSize, v => optionalWordOf "usize" v
  | .profile, v => (choiceOf profiles v : Except Refusal CertificateProfile)
  | .family, v => (choiceOf families v : Except Refusal AddressFamily)

/-- **To set a field** is to read its value and to put what it stands for there. -/
theorem Overrides.set_eq (o : Overrides) (v : Json) (f : Field) :
    o.set v f = (f.read v).map (o.put f) := by
  cases f with
  | recvTimeout | sendTimeout =>
    simp only [set, Field.read]
    cases wordOf "u64" v <;> rfl
  | handshakeTimeout =>
    simp only [set, Field.read]
    cases optionalWordOf "u64" v <;> rfl
  | maxFragmentSize =>
    simp only [set, Field.read]
    cases optionalWordOf "usize" v <;> rfl
  | profile =>
    simp only [set, Field.read]
    cases choiceOf profiles v <;> rfl
  | family =>
    simp only [set, Field.read]
    cases choiceOf families v <;> rfl

/-- A value is a whole number of sixty-four bits. -/
def IsWord (v : Json) (n : ℕ) : Prop := v = .number (.unsigned n) ∧ n < Json.wordLimit

/-- A value names a choice: by its name, or by an object with that name as its only key and null as
the value. -/
def Names (v : Json) (name : String) : Prop := v = .string name ∨ v = .object [(name, .null)]

/-- A span is that many milliseconds, exactly. -/
def IsMillis (d : Duration) (n : ℕ) : Prop := d.nanoseconds = n * 1000000

/-- **What a value of a field stands for.** -/
def Field.Denotes : (f : Field) → Json → f.Content → Prop
  | .recvTimeout, v, d | .sendTimeout, v, d | .handshakeTimeout, v, some d =>
    ∃ n, IsWord v n ∧ IsMillis d n
  | .maxFragmentSize, v, some n => IsWord v n
  | .handshakeTimeout, v, none | .maxFragmentSize, v, none => v = .null
  | .profile, v, .default => Names v "default"
  | .profile, v, .suiteB => Names v "suite_b"
  | .family, v, .ipv4 => Names v "ipv4"
  | .family, v, .ipv6 => Names v "ipv6"

/-- **The values that a field may have.** -/
def Field.Admits : Field → Json → Prop
  | .recvTimeout, v | .sendTimeout, v => ∃ n, IsWord v n
  | .handshakeTimeout, v | .maxFragmentSize, v => v = .null ∨ ∃ n, IsWord v n
  | .profile, v => ∃ name ∈ ["default", "suite_b"], Names v name
  | .family, v => ∃ name ∈ ["ipv4", "ipv6"], Names v name

/-- The whole numbers of a document have sixty-four bits. -/
def InRange (v : Json) : Prop := ∀ n, v = .number (.unsigned n) → n < Json.wordLimit

theorem isMillis_ofMillis {n : ℕ} (h : n < Json.wordLimit) : IsMillis (.ofMillis n) n := by
  rw [IsMillis, Duration.ofMillis, Duration.nanoseconds_ofNanoseconds,
    Duration.nanoseconds_longest]
  rw [Json.wordLimit] at h
  omega

theorem eq_ofMillis {d : Duration} {n : ℕ} (h : IsMillis d n) (hn : n < Json.wordLimit) :
    d = .ofMillis n :=
  Duration.ext_nanoseconds (h.trans (isMillis_ofMillis hn).symm)

theorem isWord_iff {v : Json} (hv : InRange v) {n : ℕ} : IsWord v n ↔ v = .number (.unsigned n) :=
  ⟨And.left, fun h => ⟨h, hv n h⟩⟩

theorem wordOf_eq_ok_iff {expected : String} {v : Json} {n : ℕ} :
    wordOf expected v = .ok n ↔ v = .number (.unsigned n) := by
  unfold wordOf
  split <;> simp_all

theorem optionalWordOf_eq_ok_iff {expected : String} {v : Json} {n : Option ℕ} :
    optionalWordOf expected v = .ok n ↔
      match n with
      | none => v = .null
      | some k => v = .number (.unsigned k) := by
  unfold optionalWordOf
  split
  · cases n <;> simp
  · next hv =>
    rw [Except.map_eq_ok_iff]
    cases n with
    | none => simpa using hv
    | some k => simp [wordOf_eq_ok_iff]

/-- **A choice** is one of the choices, by its name. -/
theorem choiceOf_eq_ok_iff {α : Type} {choices : List (String × α)} {v : Json} {a : α} :
    choiceOf choices v = .ok a ↔ ∃ name, choices.lookup name = some a ∧ Names v name := by
  have hlook (name : String) : lookUp choices name = .ok a ↔ choices.lookup name = some a := by
    unfold lookUp
    cases choices.lookup name <;> simp
  unfold choiceOf Names
  split
  · next name => simp [hlook]
  · next name value rest =>
    cases hl : lookUp choices name with
    | error x =>
      refine iff_of_false nofun ?_
      rintro ⟨name', ha, hv | hv⟩
      · cases hv
      · cases hv
        rw [(hlook name).mpr ha] at hl
        cases hl
    | ok a' =>
      cases value with
      | null =>
        cases rest with
        | nil =>
          constructor
          · intro h
            cases h
            exact ⟨name, (hlook name).mp hl, .inr rfl⟩
          · rintro ⟨name', ha, hv | hv⟩
            · cases hv
            · cases hv
              rw [(hlook name).mpr ha] at hl
              cases hl
              rfl
        | cons m rest => exact iff_of_false nofun (by simp)
      | _ => exact iff_of_false nofun (by simp)
  · next hs ho =>
    refine iff_of_false (by simp) ?_
    rintro ⟨name, -, rfl | rfl⟩
    · exact hs name rfl
    · exact ho name .null [] rfl

/-- Of a word in range, the milliseconds are a span exactly. -/
theorem ofMillis_eq_iff {n : ℕ} (h : n < Json.wordLimit) {d : Duration} :
    .ofMillis n = d ↔ IsMillis d n :=
  ⟨fun hd => hd ▸ isMillis_ofMillis h, fun hd => (eq_ofMillis hd h).symm⟩

theorem lookup_pair {α : Type} {x y name : String} {a b c : α} (h : y ≠ x) :
    [(x, a), (y, b)].lookup name = some c ↔ name = x ∧ a = c ∨ name = y ∧ b = c := by
  simp only [List.lookup_cons, List.lookup_nil]
  by_cases hx : name = x
  · subst hx
    simp [h.symm]
  · have hbx : (name == x) = false := beq_eq_false_iff_ne.mpr hx
    by_cases hy : name = y
    · subst hy
      simp [hbx, h]
    · have hby : (name == y) = false := beq_eq_false_iff_ne.mpr hy
      simp [hbx, hby, hx, hy]

/-- **What a reader makes of a value** is what the value stands for. -/
theorem Field.read_eq_ok_iff {f : Field} {v : Json} (hv : InRange v) {a : f.Content} :
    f.read v = .ok a ↔ f.Denotes v a := by
  cases f with
  | recvTimeout | sendTimeout =>
    change Duration at a
    change (wordOf "u64" v).map Duration.ofMillis = .ok a ↔ ∃ n, IsWord v n ∧ IsMillis a n
    simp only [Except.map_eq_ok_iff, wordOf_eq_ok_iff, ← isWord_iff hv]
    exact exists_congr fun n => and_congr_right fun h => ofMillis_eq_iff h.2
  | handshakeTimeout =>
    simp only [read, Except.map_eq_ok_iff, optionalWordOf_eq_ok_iff]
    cases a with
    | none => simp [Denotes]
    | some d =>
      simp only [Option.exists, Denotes, Option.map_none, Option.map_some, reduceCtorEq, and_false,
        false_or, Option.some.injEq, ← isWord_iff hv]
      exact exists_congr fun n => and_congr_right fun h => ofMillis_eq_iff h.2
  | maxFragmentSize =>
    refine optionalWordOf_eq_ok_iff.trans ?_
    cases a with
    | none => rfl
    | some n => exact (isWord_iff hv).symm
  | profile =>
    refine choiceOf_eq_ok_iff.trans ?_
    simp only [profiles, lookup_pair (by decide : "suite_b" ≠ "default")]
    cases a <;> simp [Denotes]
  | family =>
    refine choiceOf_eq_ok_iff.trans ?_
    simp only [families, lookup_pair (by decide : "ipv6" ≠ "ipv4")]
    cases a <;> simp [Denotes]

theorem exists_isMillis {v : Json} : (∃ n, IsWord v n) ↔ ∃ d n, IsWord v n ∧ IsMillis d n := by
  constructor
  · rintro ⟨n, hn⟩
    exact ⟨_, n, hn, isMillis_ofMillis hn.2⟩
  · rintro ⟨d, n, hn, -⟩
    exact ⟨n, hn⟩

theorem exists_mem_pair {P : String → Prop} {x y : String} :
    (∃ name ∈ [x, y], P name) ↔ P x ∨ P y := by
  simp

/-- **A value is admitted** exactly if it stands for something. -/
theorem Field.admits_iff {f : Field} {v : Json} : f.Admits v ↔ ∃ a, f.Denotes v a := by
  cases f with
  | recvTimeout | sendTimeout => exact exists_isMillis
  | handshakeTimeout =>
    change _ ↔ ∃ d : Option Duration, handshakeTimeout.Denotes v d
    rw [Option.exists]
    exact or_congr_right exists_isMillis
  | maxFragmentSize =>
    change _ ↔ ∃ n : Option ℕ, maxFragmentSize.Denotes v n
    rw [Option.exists]
    rfl
  | profile =>
    rw [Admits, exists_mem_pair]
    constructor
    · rintro (h | h)
      · exact ⟨CertificateProfile.default, h⟩
      · exact ⟨CertificateProfile.suiteB, h⟩
    · rintro ⟨_ | _, h⟩
      · exact .inl h
      · exact .inr h
  | family =>
    rw [Admits, exists_mem_pair]
    constructor
    · rintro (h | h)
      · exact ⟨AddressFamily.ipv4, h⟩
      · exact ⟨AddressFamily.ipv6, h⟩
    · rintro ⟨_ | _, h⟩
      · exact .inl h
      · exact .inr h

theorem inRange_of_isWord {v : Json} {n : ℕ} (h : IsWord v n) : InRange v := by
  obtain ⟨rfl, hn⟩ := h
  rintro m ⟨⟩
  exact hn

theorem inRange_of_names {v : Json} {name : String} (h : Names v name) : InRange v := by
  rcases h with rfl | rfl <;> rintro m ⟨⟩

theorem inRange_null : InRange .null := by
  rintro m ⟨⟩

theorem Field.inRange_of_denotes {f : Field} {v : Json} {a : f.Content} (h : f.Denotes v a) :
    InRange v := by
  cases f with
  | recvTimeout | sendTimeout =>
    obtain ⟨n, hn, -⟩ := h
    exact inRange_of_isWord hn
  | handshakeTimeout =>
    cases a with
    | none => exact (show v = .null from h) ▸ inRange_null
    | some d =>
      obtain ⟨n, hn, -⟩ := h
      exact inRange_of_isWord hn
  | maxFragmentSize =>
    cases a with
    | none => exact (show v = .null from h) ▸ inRange_null
    | some n => exact inRange_of_isWord h
  | profile | family => cases a <;> exact inRange_of_names h

end SecureStream.TransportConfig
