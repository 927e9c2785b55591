import SecureStream.Proofs.TransportConfig.Fields
import Mathlib.Data.List.Nodup
import Mathlib.Data.List.Perm.Basic

/-! # Configurations and their documents

Of the members of an object those with a known key are settings of fields (`settingsOf`), and the
others make no difference (`ofMembers_eq`). The settings come to a configuration exactly if no field
is set twice and every value stands for what the configuration has there, the default where a field
is not set (`ofMembers_eq_ok_iff`). From there it is a matter of lists: an order makes no difference,
and a configuration that was built is read again from what is written of it
(`describes_of_writtenIn`). -/

namespace SecureStream.TransportConfig

/-! ### Settings -/

/-- The settings of fields among the members of an object. -/
def settingsOf (members : List (String × Json)) : List (Field × Json) :=
  members.filterMap fun m => (Field.ofKey? m.1).map fun f => (f, m.2)

/-- Takes one setting into account. -/
def Overrides.assign (o : Overrides) (s : Field × Json) : Except Refusal Overrides :=
  if o.isSet s.1 then .error (.duplicateField s.1) else o.set s.2 s.1

theorem foldlM_member (members : List (String × Json)) (o : Overrides) :
    members.foldlM Overrides.member o = (settingsOf members).foldlM Overrides.assign o := by
  induction members generalizing o with
  | nil => rfl
  | cons m rest ih =>
    rw [List.foldlM_cons, settingsOf, List.filterMap_cons, Overrides.member]
    cases Field.ofKey? m.1 with
    | none => exact ih o
    | some f => exact congrArg _ (funext ih)

/-- **Members with other keys make no difference.** -/
theorem ofMembers_eq (members : List (String × Json)) :
    ofMembers members =
      ((settingsOf members).foldlM Overrides.assign Overrides.none).map Overrides.apply := by
  rw [ofMembers, foldlM_member]

/-- **A setting is taken** if the field is not set and the value stands for something. -/
theorem Overrides.assign_eq_ok_iff {o o' : Overrides} {f : Field} {v : Json} :
    o.assign (f, v) = .ok o' ↔ o.get f = .none ∧ ∃ a, f.read v = .ok a ∧ o' = o.put f a := by
  unfold assign
  rw [isSet_eq, set_eq]
  cases o.get f with
  | none =>
    simp only [Option.isSome_none, Bool.false_eq_true, if_false, Except.map_eq_ok_iff, true_and,
      eq_comm (a := o')]
  | some a => simp

/-- **What settings come to.** -/
structure Comes (settings : List (Field × Json)) (o o' : Overrides) : Prop where
  once : (settings.map Prod.fst).Nodup
  fresh : ∀ f ∈ settings.map Prod.fst, o.get f = none
  present : ∀ f v, (f, v) ∈ settings → ∃ a, f.read v = .ok a ∧ o'.get f = some a
  absent : ∀ f, f ∉ settings.map Prod.fst → o'.get f = o.get f

theorem comes_nil {o o' : Overrides} : Comes [] o o' ↔ o = o' := by
  constructor
  · intro h
    exact Overrides.ext_get fun f => (h.absent f List.not_mem_nil).symm
  · rintro rfl
    exact ⟨List.nodup_nil, by simp, by simp, fun f _ => rfl⟩

theorem comes_cons {f : Field} {v : Json} {rest : List (Field × Json)} {o o' : Overrides} :
    Comes ((f, v) :: rest) o o' ↔
      o.get f = none ∧ ∃ a, f.read v = .ok a ∧ Comes rest (o.put f a) o' := by
  constructor
  · intro h
    obtain ⟨hf, hrest⟩ := List.nodup_cons.mp h.once
    obtain ⟨a, ha, ho⟩ := h.present f v List.mem_cons_self
    refine ⟨h.fresh f List.mem_cons_self, a, ha, hrest, fun g hg => ?_, fun g w hw => ?_,
      fun g hg => ?_⟩
    · have hne : g ≠ f := ne_of_mem_of_not_mem hg hf
      rw [o.get_put_of_ne hne]
      exact h.fresh g (List.mem_cons_of_mem _ hg)
    · exact h.present g w (List.mem_cons_of_mem _ hw)
    · by_cases hne : g = f
      · subst hne
        rw [ho, Overrides.get_put]
      · rw [o.get_put_of_ne hne]
        exact h.absent g (by simp [hne, hg])
  · rintro ⟨hf, a, ha, h⟩
    have hnew : f ∉ rest.map Prod.fst := by
      intro hmem
      have hget := h.fresh f hmem
      rw [Overrides.get_put] at hget
      cases hget
    refine ⟨List.nodup_cons.mpr ⟨hnew, h.once⟩, fun g hg => ?_, fun g w hw => ?_, fun g hg => ?_⟩
    · rcases List.mem_cons.mp hg with rfl | hg
      · exact hf
      · rw [← o.get_put_of_ne (ne_of_mem_of_not_mem hg hnew) a]
        exact h.fresh g hg
    · rcases List.mem_cons.mp hw with hw | hw
      · cases hw
        refine ⟨a, ha, ?_⟩
        rw [h.absent f hnew, Overrides.get_put]
      · exact h.present g w hw
    · obtain ⟨hne, hg⟩ := not_or.mp (mt List.mem_cons.mpr hg)
      rw [h.absent g hg, o.get_put_of_ne hne]

/-- **Settings are taken one after the other** exactly if they come to this. -/
theorem foldlM_assign_eq_ok_iff {settings : List (Field × Json)} {o o' : Overrides} :
    settings.foldlM Overrides.assign o = .ok o' ↔ Comes settings o o' := by
  induction settings generalizing o with
  | nil =>
    rw [comes_nil, List.foldlM_nil]
    constructor
    · rintro ⟨⟩
      rfl
    · rintro rfl
      rfl
  | cons s rest ih =>
    obtain ⟨f, v⟩ := s
    rw [List.foldlM_cons, comes_cons]
    cases hs : o.assign (f, v) with
    | error x =>
      refine iff_of_false nofun ?_
      rintro ⟨hf, a, ha, -⟩
      rw [Overrides.assign_eq_ok_iff.mpr ⟨hf, a, ha, rfl⟩] at hs
      cases hs
    | ok o₁ =>
      obtain ⟨hf, a, ha, rfl⟩ := Overrides.assign_eq_ok_iff.mp hs
      simp only [hf, ha, true_and, Except.ok.injEq, exists_eq_left']
      exact ih

theorem ofMembers_eq_ok_iff_comes {members : List (String × Json)} {c : TransportConfig} :
    ofMembers members = .ok c ↔
      ∃ o, Comes (settingsOf members) Overrides.none o ∧ o.apply = c := by
  simp only [ofMembers_eq, Except.map_eq_ok_iff, foldlM_assign_eq_ok_iff]

/-! ### What a document describes -/

/-- **What the members of an object describe**, field by field. -/
structure Describes (members : List (String × Json)) (c : TransportConfig) : Prop where
  once : ((settingsOf members).map Prod.fst).Nodup
  present : ∀ f v, (f, v) ∈ settingsOf members → f.Denotes v (c.get f)
  absent : ∀ f, f ∉ (settingsOf members).map Prod.fst → c.get f = defaults.get f

theorem value_unique {settings : List (Field × Json)} (h : (settings.map Prod.fst).Nodup) {f : Field}
    {v w : Json} (hv : (f, v) ∈ settings) (hw : (f, w) ∈ settings) : v = w :=
  congrArg Prod.snd (List.inj_on_of_nodup_map h hv hw rfl)

/-- **When members describe a configuration.** -/
theorem exists_describes_iff {members : List (String × Json)} :
    (∃ c, Describes members c) ↔ ((settingsOf members).map Prod.fst).Nodup ∧
      ∀ f v, (f, v) ∈ settingsOf members → f.Admits v := by
  constructor
  · rintro ⟨c, h⟩
    exact ⟨h.once, fun f v hv => Field.admits_iff.mpr ⟨_, h.present f v hv⟩⟩
  · rintro ⟨hn, ha⟩
    have hfield (f : Field) : ∃ a : f.Content, (∀ v, (f, v) ∈ settingsOf members → f.Denotes v a) ∧
        (f ∉ (settingsOf members).map Prod.fst → a = defaults.get f) := by
      by_cases hf : f ∈ (settingsOf members).map Prod.fst
      · obtain ⟨⟨g, v⟩, hv, rfl⟩ := List.mem_map.mp hf
        obtain ⟨a, hd⟩ := Field.admits_iff.mp (ha g v hv)
        exact ⟨a, fun w hw => value_unique hn hv hw ▸ hd, fun h => absurd hf h⟩
      · exact ⟨defaults.get f, fun v hv => absurd (List.mem_map_of_mem hv) hf, fun _ => rfl⟩
    choose content hpresent habsent using hfield
    have hget (f : Field) : (Overrides.ofGet fun f => some (content f)).apply.get f = content f := by
      rw [Overrides.get_apply, Overrides.get_ofGet]
      rfl
    refine ⟨(Overrides.ofGet fun f => some (content f)).apply, hn, fun f v hv => ?_, fun f hf => ?_⟩
    · rw [hget]
      exact hpresent f v hv
    · rw [hget]
      exact habsent f hf

theorem inRange_of_mem {members : List (String × Json)} (hr : ∀ m ∈ members, InRange m.2) :
    ∀ s ∈ settingsOf members, InRange s.2 := by
  intro s h
  obtain ⟨m, hm, hs⟩ := List.mem_filterMap.mp h
  obtain ⟨g, -, rfl⟩ := Option.map_eq_some_iff.mp hs
  exact hr m hm

/-- **Members come to a configuration** exactly if they describe it. -/
theorem ofMembers_eq_ok_iff {members : List (String × Json)}
    (hr : ∀ s ∈ settingsOf members, InRange s.2) {c : TransportConfig} :
    ofMembers members = .ok c ↔ Describes members c := by
  rw [ofMembers_eq_ok_iff_comes]
  constructor
  · rintro ⟨o, h, rfl⟩
    refine ⟨h.once, fun f v hv => ?_, fun f hf => ?_⟩
    · obtain ⟨a, ha, ho⟩ := h.present f v hv
      rw [Overrides.get_apply, ho]
      exact (Field.read_eq_ok_iff (hr _ hv)).mp ha
    · rw [Overrides.get_apply, h.absent f hf, Overrides.get_none]
      rfl
  · intro h
    let set (f : Field) : Option f.Content :=
      if f ∈ (settingsOf members).map Prod.fst then some (c.get f) else none
    refine ⟨.ofGet set, ⟨h.once, fun f _ => Overrides.get_none f, fun f v hv => ?_, fun f hf => ?_⟩,
      ext_get fun f => ?_⟩
    · refine ⟨c.get f, (Field.read_eq_ok_iff (hr _ hv)).mpr (h.present f v hv), ?_⟩
      rw [Overrides.get_ofGet]
      exact if_pos (List.mem_map_of_mem hv)
    · rw [Overrides.get_ofGet, Overrides.get_none]
      exact if_neg hf
    · rw [Overrides.get_apply, Overrides.get_ofGet]
      by_cases hf : f ∈ (settingsOf members).map Prod.fst
      · rw [show set f = some (c.get f) from if_pos hf]
        rfl
      · rw [show set f = none from if_neg hf]
        exact (h.absent f hf).symm

/-! ### Order -/

/-- Whether a member has the key of a field. -/
def isKnown (m : String × Json) : Bool := (Field.ofKey? m.1).isSome

theorem settingsOf_filter (members : List (String × Json)) :
    settingsOf (members.filter isKnown) = settingsOf members := by
  rw [settingsOf, settingsOf, List.filterMap_filter]
  refine congrArg (List.filterMap · members) (funext fun m => ?_)
  unfold isKnown
  cases Field.ofKey? m.1 <;> rfl

theorem settingsOf_perm {members members' : List (String × Json)}
    (h : (members.filter isKnown).Perm (members'.filter isKnown)) :
    (settingsOf members).Perm (settingsOf members') := by
  rw [← settingsOf_filter members, ← settingsOf_filter members']
  exact h.filterMap _

theorem Comes.perm {settings settings' : List (Field × Json)} {o o' : Overrides}
    (hp : settings.Perm settings') (h : Comes settings o o') : Comes settings' o o' where
  once := (hp.map _).nodup_iff.mp h.once
  fresh f hf := h.fresh f ((hp.map _).mem_iff.mpr hf)
  present f v hv := h.present f v (hp.mem_iff.mpr hv)
  absent f hf := h.absent f (mt (hp.map _).mem_iff.mp hf)

theorem comes_perm {settings settings' : List (Field × Json)} (hp : settings.Perm settings')
    {o o' : Overrides} : Comes settings o o' ↔ Comes settings' o o' :=
  ⟨Comes.perm hp, Comes.perm hp.symm⟩

/-- **Neither the order of the members nor the others among them matter.** -/
theorem toOption_ofMembers_perm {members members' : List (String × Json)}
    (h : (members.filter isKnown).Perm (members'.filter isKnown)) :
    (ofMembers members).toOption = (ofMembers members').toOption := by
  refine Option.ext fun c => ?_
  simp only [Except.toOption_eq_some_iff, ofMembers_eq_ok_iff_comes, comes_perm (settingsOf_perm h)]

/-! ### What is written of a configuration -/

/-- How a choice is written. -/
inductive Spelling
  /-- By its name. -/
  | bare
  /-- As an object with its name as the key. -/
  | tagged

/-- A name in a spelling. -/
def Spelling.json : Spelling → String → Json
  | bare, name => .string name
  | tagged, name => .object [(name, .null)]

/-- What is written of a field. -/
def Field.write (s : Spelling) : (f : Field) → f.Content → Json
  | .recvTimeout, d | .sendTimeout, d | .handshakeTimeout, some d =>
    .number (.unsigned (d.nanoseconds / 1000000))
  | .maxFragmentSize, some n => .number (.unsigned n)
  | .handshakeTimeout, none | .maxFragmentSize, none => .null
  | .profile, .default => s.json "default"
  | .profile, .suiteB => s.json "suite_b"
  | .family, .ipv4 => s.json "ipv4"
  | .family, .ipv6 => s.json "ipv6"

/-- **What is written of a configuration**, field by field. -/
def write (s : Field → Spelling) (c : TransportConfig) : List (String × Json) :=
  Field.all.map fun f => (f.key, f.write (s f) (c.get f))

/-- Whether what a field holds can be written: spans of whole milliseconds and sizes, both of
sixty-four bits. -/
def Field.Writable : (f : Field) → f.Content → Prop
  | .recvTimeout, d | .sendTimeout, d | .handshakeTimeout, some d =>
    ∃ n < Json.wordLimit, IsMillis d n
  | .maxFragmentSize, some n => n < Json.wordLimit
  | _, _ => True

/-- Settings of whole milliseconds and sizes, both of sixty-four bits. -/
def Setting.Writable : Setting → Prop
  | .recvTimeout d | .sendTimeout d | .handshakeTimeout d => ∃ n < Json.wordLimit, IsMillis d n
  | .maxFragmentSize n => n < Json.wordLimit
  | .profile _ | .family _ => True

theorem names_json (s : Spelling) (name : String) : Names (s.json name) name := by
  cases s
  · exact .inl rfl
  · exact .inr rfl

theorem denotes_millis {d : Duration} (h : ∃ n < Json.wordLimit, IsMillis d n) :
    ∃ n, IsWord (.number (.unsigned (d.nanoseconds / 1000000))) n ∧ IsMillis d n := by
  obtain ⟨n, hn, hd⟩ := h
  have hdiv : d.nanoseconds / 1000000 = n := by rw [hd, Nat.mul_div_cancel _ (by decide)]
  exact ⟨n, ⟨by rw [hdiv], hn⟩, hd⟩

/-- **What is written of a field** stands for what the field holds. -/
theorem Field.denotes_write (s : Spelling) {f : Field} {a : f.Content} (h : f.Writable a) :
    f.Denotes (f.write s a) a := by
  cases f with
  | recvTimeout | sendTimeout => exact denotes_millis h
  | handshakeTimeout =>
    cases a with
    | none => rfl
    | some d => exact denotes_millis h
  | maxFragmentSize =>
    cases a with
    | none => rfl
    | some n => exact ⟨rfl, h⟩
  | profile | family => cases a <;> exact names_json s _

theorem writable_defaults (f : Field) : f.Writable (defaults.get f) := by
  have h : ∃ n < Json.wordLimit, IsMillis fiveSeconds n :=
    ⟨5000, by decide, isMillis_ofMillis (by decide)⟩
  cases f with
  | recvTimeout | sendTimeout => exact h
  | _ => trivial

/-- The field that a setting sets. -/
def Setting.field : Setting → Field
  | .recvTimeout _ => .recvTimeout
  | .sendTimeout _ => .sendTimeout
  | .handshakeTimeout _ => .handshakeTimeout
  | .maxFragmentSize _ => .maxFragmentSize
  | .profile _ => .profile
  | .family _ => .family

theorem writable_get_set (c : TransportConfig) {s : Setting} (hs : s.Writable) :
    s.field.Writable ((c.set s).get s.field) := by
  cases s <;> exact hs

theorem get_set_of_ne (c : TransportConfig) {s : Setting} {f : Field} (h : f ≠ s.field) :
    (c.set s).get f = c.get f := by
  cases s <;> cases f <;> first | rfl | exact absurd rfl h

theorem writable_set {c : TransportConfig} (hc : ∀ f : Field, f.Writable (c.get f)) {s : Setting}
    (hs : s.Writable) (f : Field) : f.Writable ((c.set s).get f) := by
  by_cases hf : f = s.field
  · subst hf
    exact writable_get_set c hs
  · rw [get_set_of_ne c hf]
    exact hc f

/-- **What is built from such settings can be written.** -/
theorem writable_build {settings : List Setting} (h : ∀ s ∈ settings, s.Writable) (f : Field) :
    f.Writable ((build settings).get f) :=
  List.foldlRecOn settings set (motive := fun c => ∀ f : Field, f.Writable (c.get f))
    writable_defaults (fun _ hc s hs => writable_set hc (h s hs)) f

theorem ofKey?_key (f : Field) : Field.ofKey? f.key = some f := by
  cases f <;> rfl

theorem settingsOf_write (s : Field → Spelling) (c : TransportConfig) :
    settingsOf (c.write s) = Field.all.map fun f => (f, f.write (s f) (c.get f)) := by
  rw [settingsOf, write, List.filterMap_map, ← List.filterMap_eq_map]
  refine congrArg (List.filterMap · Field.all) (funext fun f => ?_)
  simp only [Function.comp_apply, ofKey?_key, Option.map_some]

/-- **A document of a configuration.** Of what is written of the configuration some members are
kept, at least those of the fields that do not hold the default. They stand in any order, among any
members with other keys. -/
def WrittenIn (c : TransportConfig) (document : List (String × Json)) : Prop :=
  ∃ s kept, kept.Sublist (c.write s) ∧
    (∀ f : Field, f.key ∉ kept.map Prod.fst → c.get f = defaults.get f) ∧
    (document.filter isKnown).Perm kept

/-- **A document of a configuration describes it.** -/
theorem describes_of_writtenIn {c : TransportConfig} (hc : ∀ f : Field, f.Writable (c.get f))
    {document : List (String × Json)} (h : WrittenIn c document) : Describes document c := by
  obtain ⟨s, kept, hsub, hdefault, hperm⟩ := h
  have hp : (settingsOf document).Perm (settingsOf kept) := by
    rw [← settingsOf_filter document]
    exact hperm.filterMap _
  have hs : (settingsOf kept).Sublist (Field.all.map fun f => (f, f.write (s f) (c.get f))) := by
    rw [← settingsOf_write]
    exact hsub.filterMap _
  refine ⟨?_, fun f v hv => ?_, fun f hf => hdefault f (mt (fun hk => ?_) hf)⟩
  · rw [(hp.map _).nodup_iff]
    refine (hs.map Prod.fst).nodup ?_
    rw [List.map_map]
    change Field.all.Nodup
    decide
  · obtain ⟨g, -, hg⟩ := List.mem_map.mp (hs.subset (hp.mem_iff.mp hv))
    cases hg
    exact Field.denotes_write (s f) (hc f)
  · obtain ⟨m, hm, hkey⟩ := List.mem_map.mp hk
    have hmem : (f, m.2) ∈ settingsOf kept :=
      List.mem_filterMap.mpr ⟨m, hm, by rw [hkey, ofKey?_key]; rfl⟩
    exact (hp.map Prod.fst).mem_iff.mpr (List.mem_map_of_mem hmem)

/-- **What a document says of its fields.** -/
structure FieldWise (members : List (String × Json)) : Prop where
  /-- It is a configuration exactly if no field is set twice and every value is admitted. -/
  accepted : (∃ c, ofMembers members = .ok c) ↔ ((settingsOf members).map Prod.fst).Nodup ∧
    ∀ f v, (f, v) ∈ settingsOf members → f.Admits v
  /-- Every field is what its member says, or else the default. -/
  fields : ∀ c, ofMembers members = .ok c → ∀ f,
    (∀ v, (f, v) ∈ settingsOf members → f.Denotes v (c.get f)) ∧
      (f ∉ (settingsOf members).map Prod.fst → c.get f = defaults.get f)
  /-- Neither the order of the members nor those with other keys make a difference. -/
  others : ∀ members', (members.filter isKnown).Perm (members'.filter isKnown) →
    (ofMembers members').toOption = (ofMembers members).toOption

/-- **Documents override the defaults field by field**, and what is written of a configuration that
was built comes to that configuration again. -/
theorem ofMembers_overrides_defaults :
    (∀ members, (∀ m ∈ members, InRange m.2) → FieldWise members) ∧
      ∀ settings : List Setting, (∀ s ∈ settings, s.Writable) →
        ∀ document, WrittenIn (build settings) document →
          ofMembers document = .ok (build settings) := by
  refine ⟨fun members hr => ?_, fun settings hs document hd => ?_⟩
  · have hok {c : TransportConfig} : ofMembers members = .ok c ↔ Describes members c :=
      ofMembers_eq_ok_iff (inRange_of_mem hr)
    refine ⟨?_, fun c hc f => ?_, fun members' h => (toOption_ofMembers_perm h).symm⟩
    · simp only [hok]
      exact exists_describes_iff
    · have h := hok.mp hc
      exact ⟨h.present f, h.absent f⟩
  · have h := describes_of_writtenIn (writable_build hs) hd
    exact (ofMembers_eq_ok_iff fun s hmem => Field.inRange_of_denotes (h.present _ _ hmem)).mpr h

/-- Three settings, the last one to what is the default: it is left out of the document, the profile
stands in front as an object, and a member has another key. -/
theorem ofMembers_overrides_defaults_suiteB :
    let document : List (String × Json) :=
      [("certificate_profile", .object [("suite_b", .null)]), ("max_fragment", .bool true),
        ("recv_timeout_ms", .number (.unsigned 2000))]
    FieldWise document ∧
      ofMembers document =
        .ok (build [.recvTimeout (.ofMillis 2000), .profile .suiteB, .family .ipv4]) := by
  intro document
  have hrange : ∀ m ∈ document, InRange m.2 := by
    intro m hm n hn
    simp only [document, List.mem_cons, List.not_mem_nil, or_false] at hm
    rcases hm with rfl | rfl | rfl <;> cases hn
    decide
  refine ⟨ofMembers_overrides_defaults.1 document hrange,
    ofMembers_overrides_defaults.2 _ ?_ document ?_⟩
  · have hm : IsMillis (.ofMillis 2000) 2000 := isMillis_ofMillis (by decide)
    intro s hs
    simp only [List.mem_cons, List.not_mem_nil, or_false] at hs
    rcases hs with rfl | rfl | rfl
    · exact ⟨2000, by decide, hm⟩
    · trivial
    · trivial
  · refine ⟨fun _ => .tagged, [("recv_timeout_ms", .number (.unsigned 2000)),
      ("certificate_profile", .object [("suite_b", .null)])], ?_, ?_, ?_⟩
    · exact .cons_cons _ (.cons _ (.cons _ (.cons _ (.cons_cons _ (.cons _ .slnil)))))
    · intro f hf
      cases f with
      | recvTimeout => exact absurd (by decide) hf
      | profile => exact absurd (by decide) hf
      | _ => rfl
    · exact .swap _ _ _

end SecureStream.TransportConfig
