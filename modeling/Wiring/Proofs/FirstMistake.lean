import Wiring.Session
import Wiring.Proofs.Slot

/-!
  What the checks of a build find, and what they find first.

  The checks search sorted maps, and the first find in a sorted map is the one at the least key
  (`findSome?_toList_eq_some_iff`).  Over the slots of one capability this gives the binding that a
  mistake names (`Index.FirstSlot`), and over the capabilities the mistake that is reported.

  `Pass.Violates` states the three checks without the search.  A capability has no mistake exactly
  if it violates none of them (`Pass.mistake?_slots_eq_none_iff`), and its mistake is about the
  first one that it violates (`Pass.mistake?_slots_eq_some_iff`).

  Main statements: `Pass.mistake?_eq_none_iff` and `Pass.mistake?_eq_some_iff`.
-/

namespace Wiring

/-! ## Searching in order -/

/-- The first find in a sorted map is at the least key that has one. -/
theorem findSome?_toList_eq_some_iff {α β γ : Type} [Ord α] [Std.TransOrd α] [Std.LawfulEqOrd α]
    {m : Std.ExtTreeMap α β} {f : α × β → Option γ} {x : γ} :
    m.toList.findSome? f = some x ↔
      ∃ k v, m[k]? = some v ∧ f (k, v) = some x ∧
        ∀ k' v', m[k']? = some v' → compare k' k = .lt → f (k', v') = none := by
  have hsorted : m.toList.Pairwise fun a b => compare a.1 b.1 = .lt :=
    Std.ExtTreeMap.ordered_keys_toList
  rw [List.findSome?_eq_some_iff]
  constructor
  · rintro ⟨front, ⟨k, v⟩, back, hlist, hx, hfront⟩
    rw [hlist] at hsorted
    have hk : (k, v) ∈ m.toList := by simp [hlist]
    refine ⟨k, v, Std.ExtTreeMap.mem_toList_iff_getElem?_eq_some.1 hk, hx, ?_⟩
    intro k' v' hk' hlt
    rw [← Std.ExtTreeMap.mem_toList_iff_getElem?_eq_some, hlist, List.mem_append,
      List.mem_cons] at hk'
    rcases hk' with hmem | heq | hmem
    · exact hfront _ hmem
    · -- From the find on, no key is less than its own.
      cases heq
      simp at hlt
    · have hafter := (List.pairwise_cons.1 (List.pairwise_append.1 hsorted).2.1).1 _ hmem
      exact absurd hlt (Std.OrientedCmp.not_lt_of_lt hafter)
  · rintro ⟨k, v, hk, hx, hleast⟩
    rw [← Std.ExtTreeMap.mem_toList_iff_getElem?_eq_some] at hk
    obtain ⟨front, back, hlist⟩ := List.append_of_mem hk
    refine ⟨front, (k, v), back, hlist, hx, ?_⟩
    rintro ⟨k', v'⟩ hmem
    have hmem' : (k', v') ∈ m.toList := by simp [hlist, hmem]
    rw [hlist] at hsorted
    have hlt : compare k' k = .lt :=
      (List.pairwise_append.1 hsorted).2.2 _ hmem _ List.mem_cons_self
    exact hleast k' v' (Std.ExtTreeMap.mem_toList_iff_getElem?_eq_some.1 hmem') hlt

namespace Index

/-- Some slot of a capability holds a binding. -/
def Binds (i : Index) (c : TypeName) : Prop := ∃ q, i.slot c q ≠ []

/-- Of the slots of a capability with a property, the first, and the binding that it holds. -/
structure FirstSlot (i : Index) (c : TypeName) (P : Option Qualifier → Prop)
    (q : Option Qualifier) (b : Binding) : Prop where
  slot_eq : i.slot c q = [b]
  holds : P q
  first : ∀ q', compare q' q = .lt → i.slot c q' ≠ [] → ¬ P q'

namespace Sound

variable {i : Index}

theorem getElem?_slots_eq_some_iff (hi : i.Sound) {c : TypeName} {q : Option Qualifier}
    {bs : List Binding} : (i.slots c)[q]? = some bs ↔ i.slot c q = bs ∧ bs ≠ [] := by
  rw [hi.getElem?_slots_eq]
  by_cases hslot : i.slot c q = []
  · rw [if_pos hslot, hslot]
    simp only [reduceCtorEq, false_iff, not_and, not_not]
    exact fun h => h.symm
  · rw [if_neg hslot, Option.some.injEq]
    constructor
    · rintro rfl
      exact ⟨rfl, hslot⟩
    · exact fun h => h.1

theorem exists_slot_eq (hi : i.Sound) {c : TypeName} {q : Option Qualifier}
    (h : i.slot c q ≠ []) : ∃ b, i.slot c q = [b] := by
  obtain ⟨b, hb⟩ := List.exists_mem_of_ne_nil _ h
  exact ⟨b, (hi.eq_singleton_of_mem hb).1⟩

theorem qualifier_of_slot_eq (hi : i.Sound) {c : TypeName} {q : Option Qualifier} {b : Binding}
    (h : i.slot c q = [b]) : b.qualifier = q := by
  have hb : b ∈ i.slot c q := by simp [h]
  exact (hi.eq_singleton_of_mem hb).2.2

theorem getElem?_eq_some_iff (hi : i.Sound) {c : TypeName} {s : Slots} :
    i[c]? = some s ↔ i.slots c = s ∧ i.Binds c := by
  have hbinds : i.Binds c ↔ i.slots c ≠ ∅ := by
    constructor
    · rintro ⟨q, hq⟩ hempty
      rw [slot_eq_getD, hempty] at hq
      simp at hq
    · intro hne
      have hc := hi.getElem?_eq c
      rw [if_neg hne] at hc
      by_contra hnone
      refine hne (Std.ExtTreeMap.ext_getElem? fun q => ?_)
      rw [hi.getElem?_slots_eq, if_pos (not_not.1 fun hq => hnone ⟨q, hq⟩)]
      simp
  rw [hbinds, hi.getElem?_eq]
  by_cases hslots : i.slots c = ∅
  · simp [hslots]
  · simp [hslots]

/-- A search through the bindings of a capability finds the one in the first slot with a find. -/
theorem findSome?_bindings_slots (hi : i.Sound) {c : TypeName} {γ : Type}
    {f : Binding → Option γ} {x : γ} :
    (i.slots c).bindings.findSome? f = some x ↔
      ∃ q b, i.slot c q = [b] ∧ f b = some x ∧
        ∀ q' b', i.slot c q' = [b'] → compare q' q = .lt → f b' = none := by
  have hsearch : (i.slots c).bindings.findSome? f =
      (i.slots c).toList.findSome? fun entry => entry.2.findSome? f := by
    unfold Slots.bindings
    rw [← List.head?_filterMap, List.filterMap_flatMap, List.head?_flatMap]
    simp only [List.head?_filterMap]
  rw [hsearch, findSome?_toList_eq_some_iff]
  simp only [hi.getElem?_slots_eq_some_iff]
  constructor
  · rintro ⟨q, bs, ⟨hslot, hne⟩, hx, hleast⟩
    obtain ⟨b, hb⟩ := hi.exists_slot_eq (hslot ▸ hne)
    obtain rfl : bs = [b] := hslot.symm.trans hb
    refine ⟨q, b, hb, by simpa using hx, ?_⟩
    intro q' b' hb' hlt
    simpa using hleast q' [b'] ⟨hb', by simp⟩ hlt
  · rintro ⟨q, b, hb, hx, hleast⟩
    refine ⟨q, [b], ⟨hb, by simp⟩, by simpa using hx, ?_⟩
    rintro q' bs' ⟨hslot', hne'⟩ hlt
    obtain ⟨b', hb'⟩ := hi.exists_slot_eq (hslot' ▸ hne')
    obtain rfl : bs' = [b'] := hslot'.symm.trans hb'
    simpa using hleast q' b' hb' hlt

theorem head?_bindings_slots (hi : i.Sound) {c : TypeName} {b : Binding} :
    (i.slots c).bindings.head? = some b ↔ ∃ q, i.FirstSlot c (fun _ => True) q b := by
  have hhead : (i.slots c).bindings.head? = (i.slots c).bindings.findSome? some := by
    rw [← List.head?_filterMap, List.filterMap_some]
  rw [hhead, hi.findSome?_bindings_slots]
  constructor
  · rintro ⟨q, b', hb, hx, hleast⟩
    cases hx
    refine ⟨q, hb, trivial, ?_⟩
    intro q' hlt hne
    obtain ⟨b', hb'⟩ := hi.exists_slot_eq hne
    cases hleast q' b' hb' hlt
  · rintro ⟨q, hb, -, hfirst⟩
    refine ⟨q, b, hb, rfl, ?_⟩
    intro q' b' hb' hlt
    exact absurd trivial (hfirst q' hlt (by simp [hb']))

/-- The bindings of a capability are as many as the qualifiers under which it is bound. -/
theorem boundQualifiers_slots (hi : i.Sound) (c : TypeName) :
    (i.slots c).boundQualifiers = (i.slots c).bindings.map Binding.qualifier := by
  have hentry : ∀ entry ∈ (i.slots c).toList,
      ∃ b : Binding, entry.2 = [b] ∧ b.qualifier = entry.1 := by
    rintro ⟨q, bs⟩ hmem
    obtain ⟨hslot, hne⟩ :=
      hi.getElem?_slots_eq_some_iff.1 (Std.ExtTreeMap.mem_toList_iff_getElem?_eq_some.1 hmem)
    obtain ⟨b, hb⟩ := hi.exists_slot_eq (hslot ▸ hne)
    exact ⟨b, hslot.symm.trans hb, hi.qualifier_of_slot_eq hb⟩
  unfold Slots.boundQualifiers Slots.bindings
  rw [List.filter_eq_self.2, List.map_flatMap, List.map_eq_flatMap]
  · refine List.flatMap_congr fun entry hmem => ?_
    obtain ⟨b, hb, hq⟩ := hentry entry hmem
    rw [hb, ← hq]
    rfl
  · intro entry hmem
    obtain ⟨b, hb, -⟩ := hentry entry hmem
    rw [hb]
    rfl

end Sound

end Index

/-! ## The three checks -/

/-- The checks of a build, in the order in which they are made. -/
inductive Check
  /-- The capability is no declared marker. -/
  | capability
  /-- Every marker of the capability's qualifiers is declared. -/
  | markers
  /-- If the capability has several bindings, all have qualifiers. -/
  | qualifiers

/-- A qualifier has a marker that is not declared. -/
def Undeclared (markers : MarkerSet) (q : Option Qualifier) : Prop :=
  ∃ marker argument, q = some (.marked marker argument) ∧ marker ∉ markers

namespace Pass

/-- A capability violates a check, if the check is made. -/
def Violates (p : Pass) (c : TypeName) : Check → Prop
  | .capability => c.text ∈ p.markers
  | .markers =>
    p.checks.declaredMarkersOnly = true ∧ ∃ q, p.index.slot c q ≠ [] ∧ Undeclared p.markers q
  | .qualifiers =>
    p.checks.requireQualifiers = true ∧ p.index.slot c none ≠ [] ∧
      1 < (p.index.slots c).boundQualifiers.length

/-- What is said of a capability that violates a check: it is about the first check violated, and
names a binding by the first slot that shows the violation. -/
inductive Objects (p : Pass) (c : TypeName) : BindError → Prop
  | capability {q : Option Qualifier} {b : Binding} (h : p.Violates c .capability)
      (hfirst : p.index.FirstSlot c (fun _ => True) q b) :
      Objects p c (.capabilityIsMarker b.implementation c)
  | markers {marker : String} {argument : Option Argument} {b : Binding}
      (hcapability : ¬ p.Violates c .capability) (h : p.Violates c .markers)
      (hfirst : p.index.FirstSlot c (Undeclared p.markers) (some (.marked marker argument)) b) :
      Objects p c (.unknownMarker b.implementation marker)
  | qualifiers {b : Binding} (hcapability : ¬ p.Violates c .capability)
      (hmarkers : ¬ p.Violates c .markers) (h : p.Violates c .qualifiers)
      (hslot : p.index.slot c none = [b]) :
      Objects p c (.missingQualifier c b.implementation)

end Pass

theorem Binding.markerMistake?_eq_some_iff {markers : MarkerSet} {b : Binding} {e : BindError} :
    b.markerMistake? markers = some e ↔
      ∃ marker argument, b.qualifier = some (.marked marker argument) ∧ marker ∉ markers ∧
        e = .unknownMarker b.implementation marker := by
  obtain ⟨capability, qualifier, implementation⟩ := b
  unfold markerMistake?
  rcases qualifier with _ | key | ⟨marker, argument⟩
  · simp
  · simp
  · by_cases hmem : marker ∈ markers
    · simp [hmem]
    · simp [hmem, eq_comm]

theorem Binding.markerMistake?_eq_none_iff {markers : MarkerSet} {b : Binding} :
    b.markerMistake? markers = none ↔ ¬ Undeclared markers b.qualifier := by
  rw [Option.eq_none_iff_forall_ne_some]
  simp only [ne_eq, Binding.markerMistake?_eq_some_iff]
  constructor
  · rintro h ⟨marker, argument, hq, hmem⟩
    exact h _ ⟨marker, argument, hq, hmem, rfl⟩
  · rintro h e ⟨marker, argument, hq, hmem, -⟩
    exact h ⟨marker, argument, hq, hmem⟩

namespace Pass

/-! ## The mistakes of a capability -/

variable {p : Pass} {c : TypeName} {e : BindError}

theorem capabilityMistake?_eq_some_iff (hp : p.index.Sound) :
    (p.index.slots c).capabilityMistake? p.markers c = some e ↔
      p.Violates c .capability ∧ ∃ q b, p.index.FirstSlot c (fun _ => True) q b ∧
        e = .capabilityIsMarker b.implementation c := by
  unfold Slots.capabilityMistake? Violates
  by_cases hmem : c.text ∈ p.markers
  · rw [if_pos hmem, Option.map_eq_some_iff]
    simp only [hp.head?_bindings_slots, hmem, true_and]
    constructor
    · rintro ⟨b, ⟨q, hfirst⟩, rfl⟩
      exact ⟨q, b, hfirst, rfl⟩
    · rintro ⟨q, b, hfirst, rfl⟩
      exact ⟨b, ⟨q, hfirst⟩, rfl⟩
  · simp [hmem]

theorem capabilityMistake?_eq_none_iff (hbinds : p.index.Binds c) :
    (p.index.slots c).capabilityMistake? p.markers c = none ↔ ¬ p.Violates c .capability := by
  have hne : (p.index.slots c).bindings ≠ [] := by
    obtain ⟨q, hq⟩ := hbinds
    obtain ⟨b, hb⟩ := List.exists_mem_of_ne_nil _ hq
    exact List.ne_nil_of_mem (Index.mem_bindings_slots_iff.2 ⟨q, hb⟩)
  unfold Slots.capabilityMistake? Violates
  by_cases hmem : c.text ∈ p.markers
  · simp [hmem, hne]
  · simp [hmem]

theorem markerMistake?_eq_some_iff (hp : p.index.Sound) :
    (if p.checks.declaredMarkersOnly then (p.index.slots c).markerMistake? p.markers else none) =
        some e ↔
      p.Violates c .markers ∧ ∃ marker argument b,
        p.index.FirstSlot c (Undeclared p.markers) (some (.marked marker argument)) b ∧
          e = .unknownMarker b.implementation marker := by
  unfold Slots.markerMistake? Violates
  by_cases hon : p.checks.declaredMarkersOnly = true
  · rw [if_pos hon, hp.findSome?_bindings_slots]
    constructor
    · rintro ⟨q, b, hb, hx, hleast⟩
      obtain ⟨marker, argument, hq, hmem, rfl⟩ := Binding.markerMistake?_eq_some_iff.1 hx
      obtain rfl : b.qualifier = q := hp.qualifier_of_slot_eq hb
      have hundeclared : Undeclared p.markers b.qualifier := ⟨marker, argument, hq, hmem⟩
      refine ⟨⟨hon, b.qualifier, by simp [hb], hundeclared⟩, marker, argument, b, ?_, rfl⟩
      rw [← hq]
      refine ⟨hb, hundeclared, ?_⟩
      intro q' hlt hne
      obtain ⟨b', hb'⟩ := hp.exists_slot_eq hne
      obtain rfl : b'.qualifier = q' := hp.qualifier_of_slot_eq hb'
      exact Binding.markerMistake?_eq_none_iff.1 (hleast _ b' hb' hlt)
    · rintro ⟨-, marker, argument, b, ⟨hb, hholds, hfirst⟩, rfl⟩
      have hq : b.qualifier = some (.marked marker argument) := hp.qualifier_of_slot_eq hb
      obtain ⟨marker', argument', heq, hmem⟩ := hholds
      cases heq
      refine ⟨_, b, hb, Binding.markerMistake?_eq_some_iff.2 ⟨_, _, hq, hmem, rfl⟩, ?_⟩
      intro q' b' hb' hlt
      obtain rfl : b'.qualifier = q' := hp.qualifier_of_slot_eq hb'
      exact Binding.markerMistake?_eq_none_iff.2 (hfirst _ hlt (by simp [hb']))
  · simp [hon]

theorem markerMistake?_eq_none_iff (hp : p.index.Sound) :
    (if p.checks.declaredMarkersOnly then (p.index.slots c).markerMistake? p.markers else none) =
        none ↔ ¬ p.Violates c .markers := by
  unfold Slots.markerMistake? Violates
  by_cases hon : p.checks.declaredMarkersOnly = true
  · rw [if_pos hon, List.findSome?_eq_none_iff]
    simp only [Binding.markerMistake?_eq_none_iff, Index.mem_bindings_slots_iff, hon, true_and]
    constructor
    · rintro hall ⟨q, hne, hundeclared⟩
      obtain ⟨b, hb⟩ := hp.exists_slot_eq hne
      obtain rfl : b.qualifier = q := hp.qualifier_of_slot_eq hb
      exact hall b ⟨b.qualifier, by simp [hb]⟩ hundeclared
    · rintro hnone b ⟨q, hb⟩ hundeclared
      obtain rfl : b.qualifier = q := (hp.eq_singleton_of_mem hb).2.2
      exact hnone ⟨_, List.ne_nil_of_mem hb, hundeclared⟩
  · simp [hon]

theorem qualifierMistake?_eq_some_iff (hp : p.index.Sound) :
    (if p.checks.requireQualifiers then (p.index.slots c).qualifierMistake? c else none) =
        some e ↔
      p.Violates c .qualifiers ∧ ∃ b, p.index.slot c none = [b] ∧
        e = .missingQualifier c b.implementation := by
  unfold Slots.qualifierMistake? Violates
  rw [hp.boundQualifiers_slots, List.length_map]
  change (if _ then if _ then (p.index.slot c none).head?.map _ else none else none) = some e ↔ _
  by_cases hon : p.checks.requireQualifiers = true
  · by_cases hseveral : 1 < (p.index.slots c).bindings.length
    · rw [if_pos hon, if_pos hseveral, Option.map_eq_some_iff]
      constructor
      · rintro ⟨b, hb, rfl⟩
        have hslot := (hp.eq_singleton_of_mem (List.mem_of_mem_head? hb)).1
        exact ⟨⟨hon, by simp [hslot], hseveral⟩, b, hslot, rfl⟩
      · rintro ⟨-, b, hslot, rfl⟩
        exact ⟨b, by simp [hslot], rfl⟩
    · simp [hseveral]
  · simp [hon]

theorem qualifierMistake?_eq_none_iff (hp : p.index.Sound) :
    (if p.checks.requireQualifiers then (p.index.slots c).qualifierMistake? c else none) =
        none ↔ ¬ p.Violates c .qualifiers := by
  rw [Option.eq_none_iff_forall_ne_some]
  simp only [ne_eq, qualifierMistake?_eq_some_iff hp]
  constructor
  · intro hnone hviolates
    obtain ⟨b, hb⟩ := hp.exists_slot_eq hviolates.2.1
    exact hnone _ ⟨hviolates, b, hb, rfl⟩
  · rintro hnot e ⟨hviolates, -⟩
    exact hnot hviolates

theorem mistake?_slots_eq_none_iff (hp : p.index.Sound) (hbinds : p.index.Binds c) :
    (p.index.slots c).mistake? p.checks p.markers c = none ↔ ∀ k, ¬ p.Violates c k := by
  simp only [Slots.mistake?, Option.orElse_eq_orElse, Option.orElse_eq_or, Option.or_eq_none_iff,
    capabilityMistake?_eq_none_iff hbinds, markerMistake?_eq_none_iff hp,
    qualifierMistake?_eq_none_iff hp]
  constructor
  · rintro ⟨hcapability, hmarkers, hqualifiers⟩ k
    cases k with
    | capability => exact hcapability
    | markers => exact hmarkers
    | qualifiers => exact hqualifiers
  · intro hall
    exact ⟨hall .capability, hall .markers, hall .qualifiers⟩

/-- The mistake of a capability is about the first check that it violates. -/
theorem mistake?_slots_eq_some_iff (hp : p.index.Sound) (hbinds : p.index.Binds c) :
    (p.index.slots c).mistake? p.checks p.markers c = some e ↔ p.Objects c e := by
  simp only [Slots.mistake?, Option.orElse_eq_orElse, Option.orElse_eq_or, Option.or_eq_some_iff,
    capabilityMistake?_eq_none_iff hbinds, markerMistake?_eq_none_iff hp,
    capabilityMistake?_eq_some_iff hp, markerMistake?_eq_some_iff hp,
    qualifierMistake?_eq_some_iff hp]
  constructor
  · rintro (⟨h, q, b, hfirst, rfl⟩ | ⟨hcapability, ⟨h, marker, argument, b, hfirst, rfl⟩ |
      ⟨hmarkers, h, b, hslot, rfl⟩⟩)
    · exact .capability h hfirst
    · exact .markers hcapability h hfirst
    · exact .qualifiers hcapability hmarkers h hslot
  · intro hobjects
    cases hobjects with
    | capability h hfirst => exact .inl ⟨h, _, _, hfirst, rfl⟩
    | markers hcapability h hfirst =>
      exact .inr ⟨hcapability, .inl ⟨h, _, _, _, hfirst, rfl⟩⟩
    | qualifiers hcapability hmarkers h hslot =>
      exact .inr ⟨hcapability, .inr ⟨hmarkers, h, _, hslot, rfl⟩⟩

/-! ## The mistake that is reported -/

/-- **The checks find nothing** exactly if no capability that is bound violates one. -/
theorem mistake?_eq_none_iff (hp : p.index.Sound) :
    p.index.mistake? p.checks p.markers = none ↔
      ∀ c, p.index.Binds c → ∀ k, ¬ p.Violates c k := by
  unfold Index.mistake?
  simp only [List.findSome?_eq_none_iff, Prod.forall,
    Std.ExtTreeMap.mem_toList_iff_getElem?_eq_some, hp.getElem?_eq_some_iff]
  constructor
  · intro hall c hbinds
    exact (mistake?_slots_eq_none_iff hp hbinds).1 (hall c _ ⟨rfl, hbinds⟩)
  · rintro hall c s ⟨rfl, hbinds⟩
    exact (mistake?_slots_eq_none_iff hp hbinds).2 (hall c hbinds)

/-- **The checks report** what is said of the least capability that violates one. -/
theorem mistake?_eq_some_iff (hp : p.index.Sound) :
    p.index.mistake? p.checks p.markers = some e ↔
      ∃ c, p.index.Binds c ∧ p.Objects c e ∧
        ∀ c', compare c' c = .lt → p.index.Binds c' → ∀ k, ¬ p.Violates c' k := by
  unfold Index.mistake?
  rw [findSome?_toList_eq_some_iff]
  simp only [hp.getElem?_eq_some_iff]
  constructor
  · rintro ⟨c, s, ⟨rfl, hbinds⟩, he, hleast⟩
    refine ⟨c, hbinds, (mistake?_slots_eq_some_iff hp hbinds).1 he, ?_⟩
    intro c' hlt hbinds'
    exact (mistake?_slots_eq_none_iff hp hbinds').1 (hleast c' _ ⟨rfl, hbinds'⟩ hlt)
  · rintro ⟨c, hbinds, hobjects, hleast⟩
    refine ⟨c, _, ⟨rfl, hbinds⟩, (mistake?_slots_eq_some_iff hp hbinds).2 hobjects, ?_⟩
    rintro c' s' ⟨rfl, hbinds'⟩ hlt
    exact (mistake?_slots_eq_none_iff hp hbinds').2 (hleast c' hlt hbinds')

end Pass

end Wiring
