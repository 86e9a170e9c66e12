import Mathlib
import Wiring.Registry

/-!
  The slots of an index, seen one by one.

  `Index.slot` is the view through which all proofs look at an index: putting a binding into a slot
  changes that slot and no other (`Index.slot_add`), and the listings hold exactly what the slots
  hold (`Index.mem_bindings_iff`, `Index.mem_boundQualifiers_iff`).

  An index is keyed if bindings carry the keys of their slots; then its listing goes by these keys
  (`Index.Keyed.pairwise_bindings`).  `Index.Sound` is what a pass keeps: there are no empty
  entries, and every slot holds one binding that carries the keys of its slot.  Sound indices with
  the same slots are equal (`Index.Sound.ext`), and their listing is in strict order
  (`Index.Sound.pairwise_bindings`).
-/

namespace Wiring

/-- The order of the listing of bindings: by capability and then by qualifier, none first. -/
def Binding.compareSlots (a b : Binding) : Ordering :=
  (compare a.capability b.capability).then (compare a.qualifier b.qualifier)

namespace Index

/-! ## Reading after writing -/

theorem slots_eq_getD (i : Index) (c : TypeName) : i.slots c = i[c]?.getD ∅ :=
  Std.ExtTreeMap.getD_eq_getD_getElem?

theorem slot_eq_getD (i : Index) (c : TypeName) (q : Option Qualifier) :
    i.slot c q = (i.slots c)[q]?.getD [] :=
  Std.ExtTreeMap.getD_eq_getD_getElem?

theorem slots_setSlot (i : Index) (c c' : TypeName) (q : Option Qualifier) (bs : List Binding) :
    (i.setSlot c q bs).slots c' = if c = c' then (i.slots c).insert q bs else i.slots c' := by
  unfold setSlot slots
  rw [Std.ExtTreeMap.getD_insert]
  simp only [Std.LawfulEqOrd.compare_eq_iff_eq]

theorem slot_setSlot (i : Index) (c c' : TypeName) (q q' : Option Qualifier) (bs : List Binding) :
    (i.setSlot c q bs).slot c' q' = if c = c' ∧ q = q' then bs else i.slot c' q' := by
  unfold slot
  rw [slots_setSlot]
  by_cases hc : c = c'
  · subst hc
    rw [if_pos rfl, Std.ExtTreeMap.getD_insert]
    simp only [Std.LawfulEqOrd.compare_eq_iff_eq, true_and]
  · rw [if_neg hc, if_neg fun h => hc h.1]

theorem slots_enter (i : Index) (c c' : TypeName) (q : Option Qualifier) :
    (i.enter c q).slots c' = if c = c' then (i.slots c).insertIfNew q [] else i.slots c' := by
  unfold enter slots
  rw [Std.ExtTreeMap.getD_insert]
  simp only [Std.LawfulEqOrd.compare_eq_iff_eq]

theorem slot_enter (i : Index) (c c' : TypeName) (q q' : Option Qualifier) :
    (i.enter c q).slot c' q' = i.slot c' q' := by
  unfold slot
  rw [slots_enter]
  by_cases hc : c = c'
  · subst hc
    rw [if_pos rfl, Std.ExtTreeMap.getD_insertIfNew]
    by_cases hnew : compare q q' = .eq ∧ q ∉ i.slots c
    · obtain ⟨hq, hnot⟩ := hnew
      rw [Std.LawfulEqOrd.compare_eq_iff_eq] at hq
      subst hq
      rw [if_pos ⟨by simp, hnot⟩, Std.ExtTreeMap.getD_eq_fallback hnot]
    · rw [if_neg hnew]
  · rw [if_neg hc]

/-- A slot that holds something has its entries, so entering it leaves the index as it is. -/
theorem enter_of_ne_nil {i : Index} {c : TypeName} {q : Option Qualifier}
    (h : i.slot c q ≠ []) : i.enter c q = i := by
  have hq : q ∈ i.slots c := by
    by_contra hnot
    exact h (Std.ExtTreeMap.getD_eq_fallback hnot)
  have hslots : (i.slots c).insertIfNew q [] = i.slots c := by
    apply Std.ExtTreeMap.ext_getElem?
    intro q'
    rw [Std.ExtTreeMap.getElem?_insertIfNew, if_neg fun hnew => hnew.2 hq]
  have hc : i[c]? = some (i.slots c) := by
    rw [slots_eq_getD] at hq ⊢
    cases hs : i[c]? with
    | none => simp [hs] at hq
    | some s => rfl
  apply Std.ExtTreeMap.ext_getElem?
  intro c'
  unfold enter
  rw [hslots, Std.ExtTreeMap.getElem?_insert]
  by_cases hc' : c = c'
  · subst hc'
    rw [if_pos (by simp), hc]
  · rw [if_neg fun heq => hc' (Std.LawfulEqOrd.compare_eq_iff_eq.1 heq)]

/-- A slot that gets a binding need not be entered before. -/
theorem add_enter (i : Index) (b : Binding) :
    (i.enter b.capability b.qualifier).add b = i.add b := by
  have hslots : ∀ bs : List Binding,
      ((i.slots b.capability).insertIfNew b.qualifier []).insert b.qualifier bs =
        (i.slots b.capability).insert b.qualifier bs := by
    intro bs
    apply Std.ExtTreeMap.ext_getElem?
    intro q
    rw [Std.ExtTreeMap.getElem?_insert, Std.ExtTreeMap.getElem?_insert,
      Std.ExtTreeMap.getElem?_insertIfNew]
    by_cases hq : compare b.qualifier q = .eq
    · rw [if_pos hq, if_pos hq]
    · rw [if_neg hq, if_neg hq, if_neg fun hnew => hq hnew.1]
  unfold add setSlot
  rw [slot_enter, slots_enter, if_pos rfl, hslots]
  apply Std.ExtTreeMap.ext_getElem?
  intro c
  unfold enter
  simp only [Std.ExtTreeMap.getElem?_insert]
  by_cases hc : compare b.capability c = .eq
  · rw [if_pos hc, if_pos hc]
  · rw [if_neg hc, if_neg hc, if_neg hc]

/-- After a binding is added its slot holds it last, and every other slot holds what it held. -/
theorem slot_add (i : Index) (b : Binding) (c : TypeName) (q : Option Qualifier) :
    (i.add b).slot c q =
      if b.capability = c ∧ b.qualifier = q then i.slot c q ++ [b] else i.slot c q := by
  unfold add
  rw [slot_setSlot]
  by_cases h : b.capability = c ∧ b.qualifier = q
  · obtain ⟨rfl, rfl⟩ := h
    rw [if_pos ⟨rfl, rfl⟩]
  · rw [if_neg h, if_neg h]

@[simp] theorem slot_empty (c : TypeName) (q : Option Qualifier) : (∅ : Index).slot c q = [] := by
  simp [slot, slots]

/-! ## What the listings hold -/

theorem mem_bindings_slots_iff {i : Index} {c : TypeName} {b : Binding} :
    b ∈ (i.slots c).bindings ↔ ∃ q, b ∈ i.slot c q := by
  unfold Slots.bindings
  rw [List.mem_flatMap]
  constructor
  · rintro ⟨⟨q, bs⟩, hmem, hb⟩
    rw [Std.ExtTreeMap.mem_toList_iff_getElem?_eq_some] at hmem
    refine ⟨q, ?_⟩
    rw [slot_eq_getD, hmem]
    exact hb
  · rintro ⟨q, hb⟩
    rw [slot_eq_getD] at hb
    cases hs : (i.slots c)[q]? with
    | none => simp [hs] at hb
    | some bs =>
      refine ⟨(q, bs), Std.ExtTreeMap.mem_toList_iff_getElem?_eq_some.2 hs, ?_⟩
      simpa [hs] using hb

theorem mem_bindings_iff {i : Index} {b : Binding} : b ∈ i.bindings ↔ ∃ c q, b ∈ i.slot c q := by
  unfold bindings
  rw [List.mem_flatMap]
  constructor
  · rintro ⟨⟨c, s⟩, hmem, hb⟩
    rw [Std.ExtTreeMap.mem_toList_iff_getElem?_eq_some] at hmem
    refine ⟨c, mem_bindings_slots_iff.1 ?_⟩
    rw [slots_eq_getD, hmem]
    exact hb
  · rintro ⟨c, hb⟩
    rw [← mem_bindings_slots_iff, slots_eq_getD] at hb
    cases hs : i[c]? with
    | none =>
      rw [hs] at hb
      simp [Slots.bindings] at hb
    | some s =>
      refine ⟨(c, s), Std.ExtTreeMap.mem_toList_iff_getElem?_eq_some.2 hs, ?_⟩
      simpa [hs] using hb

theorem mem_boundQualifiers_iff {i : Index} {c : TypeName} {q : Option Qualifier} :
    q ∈ (i.slots c).boundQualifiers ↔ i.slot c q ≠ [] := by
  unfold Slots.boundQualifiers
  rw [slot_eq_getD]
  simp only [List.mem_map, List.mem_filter, Prod.exists, exists_and_right, exists_eq_right,
    Std.ExtTreeMap.mem_toList_iff_getElem?_eq_some]
  constructor
  · rintro ⟨bs, hs, hne⟩
    simpa [hs] using hne
  · intro hne
    cases hs : (i.slots c)[q]? with
    | none => simp [hs] at hne
    | some bs => exact ⟨bs, rfl, by simpa [hs] using hne⟩

/-- The qualifiers of a capability are listed in strict order, none first. -/
theorem pairwise_boundQualifiers (s : Slots) :
    s.boundQualifiers.Pairwise fun q q' => compare q q' = .lt := by
  unfold Slots.boundQualifiers
  rw [List.pairwise_map]
  exact Std.ExtTreeMap.ordered_keys_toList.filter _

/-! ## Indices whose bindings carry their keys -/

/-- Every binding carries the keys of its slot. -/
def Keyed (i : Index) : Prop :=
  ∀ c q b, b ∈ i.slot c q → b.capability = c ∧ b.qualifier = q

theorem slot_eq_of_mem {i : Index} {c : TypeName} {s : Slots} {q : Option Qualifier}
    {bs : List Binding} (hc : (c, s) ∈ i.toList) (hq : (q, bs) ∈ s.toList) : i.slot c q = bs := by
  rw [Std.ExtTreeMap.mem_toList_iff_getElem?_eq_some] at hc hq
  rw [slot_eq_getD, slots_eq_getD, hc, Option.getD_some, hq, Option.getD_some]

/-- A relation holds along the listing if it holds along every slot and goes with the strict order
of the keys. -/
theorem Keyed.pairwise_bindings {i : Index} (h : i.Keyed) {R : Binding → Binding → Prop}
    (hslot : ∀ c q, (i.slot c q).Pairwise R)
    (hlt : ∀ a b : Binding, a.compareSlots b = .lt → R a b) : i.bindings.Pairwise R := by
  unfold bindings
  rw [List.pairwise_flatMap]
  constructor
  · intro ⟨c, s⟩ hc
    unfold Slots.bindings
    rw [List.pairwise_flatMap]
    constructor
    · intro ⟨q, bs⟩ hq
      rw [← slot_eq_of_mem hc hq]
      exact hslot c q
    · refine Std.ExtTreeMap.ordered_keys_toList.imp_of_mem ?_
      intro ⟨q, bs⟩ ⟨q', bs'⟩ hq hq' hqlt b hb b' hb'
      obtain ⟨rfl, rfl⟩ := h c q b (slot_eq_of_mem hc hq ▸ hb)
      obtain ⟨hc', rfl⟩ := h b.capability q' b' (slot_eq_of_mem hc hq' ▸ hb')
      refine hlt b b' ?_
      simpa [Binding.compareSlots, hc'] using hqlt
  · refine Std.ExtTreeMap.ordered_keys_toList.imp_of_mem ?_
    intro ⟨c, s⟩ ⟨c', s'⟩ hc hc' hclt b hb b' hb'
    obtain ⟨⟨q, bs⟩, hq, hb⟩ := List.mem_flatMap.1 hb
    obtain ⟨⟨q', bs'⟩, hq', hb'⟩ := List.mem_flatMap.1 hb'
    obtain ⟨rfl, rfl⟩ := h c q b (slot_eq_of_mem hc hq ▸ hb)
    obtain ⟨rfl, rfl⟩ := h c' q' b' (slot_eq_of_mem hc' hq' ▸ hb')
    refine hlt b b' ?_
    have hcapabilities : compare b.capability b'.capability = .lt := hclt
    simp [Binding.compareSlots, hcapabilities]

/-! ## Sound indices -/

/-- What a pass keeps of its index. -/
structure Sound (i : Index) : Prop where
  /-- A capability in the index has a slot. -/
  slots_ne_empty : ∀ (c : TypeName) (s : Slots), i[c]? = some s → s ≠ ∅
  /-- A slot holds one binding, and that binding carries the keys of the slot. -/
  slot_singleton : ∀ (c : TypeName) (s : Slots) (q : Option Qualifier) (bs : List Binding),
    i[c]? = some s → s[q]? = some bs → ∃ impl, bs = [⟨c, q, impl⟩]

theorem sound_empty : Sound ∅ where
  slots_ne_empty c s h := by simp at h
  slot_singleton c s q bs h := by simp at h

namespace Sound

variable {i j : Index}

theorem getElem?_eq (hi : i.Sound) (c : TypeName) :
    i[c]? = if i.slots c = ∅ then none else some (i.slots c) := by
  rw [slots_eq_getD]
  cases hs : i[c]? with
  | none => simp
  | some s => simp [hi.slots_ne_empty c s hs]

theorem getElem?_slots_eq (hi : i.Sound) (c : TypeName) (q : Option Qualifier) :
    (i.slots c)[q]? = if i.slot c q = [] then none else some (i.slot c q) := by
  rw [slot_eq_getD]
  cases hq : (i.slots c)[q]? with
  | none => simp
  | some bs =>
    have hc := hi.getElem?_eq c
    rw [if_neg fun h => by simp [h] at hq] at hc
    obtain ⟨impl, rfl⟩ := hi.slot_singleton c _ q bs hc hq
    simp

/-- A slot of a sound index that holds something holds one binding, which carries the keys of the
slot. -/
theorem eq_singleton_of_mem (hi : i.Sound) {c : TypeName} {q : Option Qualifier} {b : Binding}
    (hb : b ∈ i.slot c q) : i.slot c q = [b] ∧ b.capability = c ∧ b.qualifier = q := by
  have hne : i.slot c q ≠ [] := List.ne_nil_of_mem hb
  have hq := hi.getElem?_slots_eq c q
  rw [if_neg hne] at hq
  have hc := hi.getElem?_eq c
  rw [if_neg fun h => by simp [h] at hq] at hc
  obtain ⟨impl, himpl⟩ := hi.slot_singleton c _ q _ hc hq
  rw [himpl, List.mem_singleton] at hb
  subst hb
  exact ⟨himpl, rfl, rfl⟩

/-- Sound indices whose slots hold the same are equal. -/
theorem ext (hi : i.Sound) (hj : j.Sound) (h : ∀ c q, i.slot c q = j.slot c q) : i = j := by
  have hslots : ∀ c, i.slots c = j.slots c := by
    intro c
    apply Std.ExtTreeMap.ext_getElem?
    intro q
    rw [hi.getElem?_slots_eq, hj.getElem?_slots_eq, h]
  apply Std.ExtTreeMap.ext_getElem?
  intro c
  rw [hi.getElem?_eq, hj.getElem?_eq, hslots]

/-- A sound index stays sound when a binding is put into an empty slot. -/
theorem add (hi : i.Sound) {b : Binding} (hfree : i.slot b.capability b.qualifier = []) :
    (i.add b).Sound := by
  have hget : ∀ c, (i.add b)[c]? = if b.capability = c then
      some ((i.slots b.capability).insert b.qualifier [b]) else i[c]? := by
    intro c
    unfold Index.add setSlot
    rw [hfree, Std.ExtTreeMap.getElem?_insert]
    simp only [Std.LawfulEqOrd.compare_eq_iff_eq, List.nil_append]
  constructor
  · intro c s hs
    rw [hget] at hs
    by_cases hc : b.capability = c
    · rw [if_pos hc, Option.some.injEq] at hs
      subst hs
      simp
    · rw [if_neg hc] at hs
      exact hi.slots_ne_empty c s hs
  · intro c s q bs hs hq
    rw [hget] at hs
    by_cases hc : b.capability = c
    · rw [if_pos hc, Option.some.injEq] at hs
      subst hs hc
      rw [Std.ExtTreeMap.getElem?_insert] at hq
      simp only [Std.LawfulEqOrd.compare_eq_iff_eq] at hq
      by_cases hbq : b.qualifier = q
      · rw [if_pos hbq, Option.some.injEq] at hq
        subst hq hbq
        exact ⟨b.implementation, rfl⟩
      · rw [if_neg hbq] at hq
        refine hi.slot_singleton b.capability (i.slots b.capability) q bs ?_ hq
        rw [hi.getElem?_eq, if_neg fun h => by simp [h] at hq]
    · rw [if_neg hc] at hs
      exact hi.slot_singleton c s q bs hs hq

theorem keyed (hi : i.Sound) : i.Keyed := fun _ _ _ hb => (hi.eq_singleton_of_mem hb).2

/-- The listing of a sound index is in strict order, so it holds nothing twice. -/
theorem pairwise_bindings (hi : i.Sound) :
    i.bindings.Pairwise fun a b => a.compareSlots b = .lt := by
  refine hi.keyed.pairwise_bindings ?_ fun _ _ hlt => hlt
  intro c q
  cases hslot : i.slot c q with
  | nil => exact .nil
  | cons b rest =>
    have hsingle := (hi.eq_singleton_of_mem (c := c) (q := q) (b := b) (by simp [hslot])).1
    rw [← hslot, hsingle]
    exact List.pairwise_singleton _ b

theorem nodup_bindings (hi : i.Sound) : i.bindings.Nodup := by
  refine hi.pairwise_bindings.imp ?_
  rintro a b hlt rfl
  simp [Binding.compareSlots] at hlt

/-- A binding that is put into an empty slot of a sound index is the only new one in the listing. -/
theorem perm_bindings_add (hi : i.Sound) {b : Binding}
    (hfree : i.slot b.capability b.qualifier = []) :
    (i.add b).bindings.Perm (b :: i.bindings) := by
  have hnot : b ∉ i.bindings := by
    intro hmem
    obtain ⟨c, q, hb⟩ := mem_bindings_iff.1 hmem
    obtain ⟨-, rfl, rfl⟩ := hi.eq_singleton_of_mem hb
    rw [hfree] at hb
    exact List.not_mem_nil hb
  rw [List.perm_ext_iff_of_nodup (hi.add hfree).nodup_bindings
    (List.nodup_cons.2 ⟨hnot, hi.nodup_bindings⟩)]
  intro a
  rw [mem_bindings_iff, List.mem_cons, mem_bindings_iff]
  constructor
  · rintro ⟨c, q, ha⟩
    rw [slot_add] at ha
    by_cases h : b.capability = c ∧ b.qualifier = q
    · obtain ⟨rfl, rfl⟩ := h
      rw [if_pos ⟨rfl, rfl⟩, hfree] at ha
      exact Or.inl (List.mem_singleton.1 ha)
    · rw [if_neg h] at ha
      exact Or.inr ⟨c, q, ha⟩
  · rintro (rfl | ⟨c, q, ha⟩)
    · refine ⟨a.capability, a.qualifier, ?_⟩
      rw [slot_add, if_pos ⟨rfl, rfl⟩]
      simp
    · refine ⟨c, q, ?_⟩
      rw [slot_add]
      by_cases h : b.capability = c ∧ b.qualifier = q
      · rw [if_pos h]
        exact List.mem_append_left _ ha
      · rwa [if_neg h]

end Sound

end Index

end Wiring
