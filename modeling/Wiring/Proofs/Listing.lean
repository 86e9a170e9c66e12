import Wiring.Proofs.History

/-!
  Requests and listings agree, on any registry.

  A registry need not come from a pass: an index may have capabilities without slots, slots that
  hold nothing and slots that hold several bindings.  All that is asked of it is that bindings carry
  the keys of their slots (`Index.Keyed`).  Then the bindings of a slot are those that the listing
  has for its keys (`Index.Keyed.filter_bindings`), so whatever a request is answered can be read
  off the listing, and the other listings say where there is an answer.

  What a request is answered is said once, by the slot (`Registry.resolve_cases`).

  Main statement: `Registry.lookup_agrees_with_listings`.
-/

namespace Wiring

/-- Whether a mistake says that a request has no answer. -/
def BindError.isUnresolved : BindError → Bool
  | .unresolved _ _ _ => true
  | _ => false

/-! ## A part of a listing -/

theorem ne_nil_iff_exists_mem {α : Type} {l : List α} : l ≠ [] ↔ ∃ a, a ∈ l :=
  ⟨List.exists_mem_of_ne_nil l, fun ⟨_, h⟩ => List.ne_nil_of_mem h⟩

/-- Of what a sorted map lists, a test that fails for every other key leaves the part of one key. -/
theorem filter_flatMap_toList {α β γ : Type} [Ord α] [Std.TransOrd α] [Std.LawfulEqOrd α]
    {m : Std.ExtTreeMap α β} {f : β → List γ} {p : γ → Bool} {k : α}
    (hother : ∀ k' v, m[k']? = some v → k' ≠ k → ∀ x ∈ f v, p x = false) :
    (m.toList.flatMap fun entry => f entry.2).filter p = (m[k]?.elim [] f).filter p := by
  have hnone : ∀ entry ∈ m.toList, entry.1 ≠ k → (f entry.2).filter p = [] := by
    intro entry hmem hne
    have hentry : m[entry.1]? = some entry.2 :=
      Std.ExtTreeMap.mem_toList_iff_getElem?_eq_some.1 hmem
    simpa using hother entry.1 entry.2 hentry hne
  rw [List.filter_flatMap]
  cases hk : m[k]? with
  | none =>
    refine List.flatMap_eq_nil_iff.2 fun entry hmem => hnone entry hmem ?_
    rintro rfl
    rw [Std.ExtTreeMap.mem_toList_iff_getElem?_eq_some, hk] at hmem
    cases hmem
  | some v =>
    obtain ⟨front, back, hlist⟩ :=
      List.append_of_mem (Std.ExtTreeMap.mem_toList_iff_getElem?_eq_some.2 hk)
    have hsorted : (front ++ (k, v) :: back).Pairwise fun a b => compare a.1 b.1 = .lt :=
      hlist ▸ Std.ExtTreeMap.ordered_keys_toList
    -- Keys are in strict order, so no other entry of the list has this one.
    have hfront : front.flatMap (fun entry => (f entry.2).filter p) = [] := by
      refine List.flatMap_eq_nil_iff.2 fun entry hmem => hnone entry (by simp [hlist, hmem]) ?_
      have hlt := (List.pairwise_append.1 hsorted).2.2 entry hmem (k, v) List.mem_cons_self
      rintro rfl
      simp at hlt
    have hback : back.flatMap (fun entry => (f entry.2).filter p) = [] := by
      refine List.flatMap_eq_nil_iff.2 fun entry hmem => hnone entry (by simp [hlist, hmem]) ?_
      have hlt := (List.pairwise_cons.1 (List.pairwise_append.1 hsorted).2.1).1 entry hmem
      rintro rfl
      simp at hlt
    rw [hlist, List.flatMap_append, List.flatMap_cons, hfront, hback]
    simp

namespace Index

variable {i : Index}

/-- The bindings of a slot are those that are listed for its keys, in the same order. -/
theorem Keyed.filter_bindings (h : i.Keyed) (c : TypeName) (q : Option Qualifier) :
    i.bindings.filter (·.isFor c q) = i.slot c q := by
  have hcapability : i.bindings.filter (·.isFor c q) =
      (i[c]?.elim [] Slots.bindings).filter (·.isFor c q) := by
    refine filter_flatMap_toList ?_
    intro c' s hs hne b hb
    have hslots : i.slots c' = s := by rw [slots_eq_getD, hs, Option.getD_some]
    obtain ⟨q', hq'⟩ := mem_bindings_slots_iff.1 (hslots ▸ hb)
    exact Bool.eq_false_iff.2 fun hfor =>
      hne ((h c' q' b hq').1.symm.trans (Binding.isFor_iff.1 hfor).1)
  have hqualifier : (i.slots c).bindings.filter (·.isFor c q) =
      ((i.slots c)[q]?.elim [] id).filter (·.isFor c q) := by
    refine filter_flatMap_toList (f := id) ?_
    intro q' bs hbs hne b hb
    have hslot : i.slot c q' = bs := by rw [slot_eq_getD, hbs, Option.getD_some]
    exact Bool.eq_false_iff.2 fun hfor =>
      hne ((h c q' b (hslot ▸ hb)).2.symm.trans (Binding.isFor_iff.1 hfor).2)
  have hall : (i.slot c q).filter (·.isFor c q) = i.slot c q :=
    List.filter_eq_self.2 fun b hb => Binding.isFor_iff.2 (h c q b hb)
  have hslots : i[c]?.elim [] Slots.bindings = (i.slots c).bindings := by
    rw [slots_eq_getD]
    cases i[c]? <;> rfl
  have hslot : (i.slots c)[q]?.elim [] id = i.slot c q := by
    rw [slot_eq_getD]
    cases (i.slots c)[q]? <;> rfl
  rw [hcapability, hslots, hqualifier, hslot, hall]

theorem mem_boundCapabilities_iff {c : TypeName} :
    c ∈ i.boundCapabilities ↔ ∃ q, i.slot c q ≠ [] := by
  have hbindings : (i.slots c).bindings ≠ [] ↔ ∃ q, i.slot c q ≠ [] := by
    simp only [ne_nil_iff_exists_mem, mem_bindings_slots_iff]
    exact exists_comm
  rw [← hbindings, slots_eq_getD]
  unfold boundCapabilities
  simp only [List.mem_map, List.mem_filter, Prod.exists, exists_and_right, exists_eq_right,
    Std.ExtTreeMap.mem_toList_iff_getElem?_eq_some]
  cases i[c]? with
  | none => simp [Slots.bindings]
  | some s => simp

theorem pairwise_boundCapabilities (i : Index) :
    i.boundCapabilities.Pairwise fun c c' => compare c c' = .lt := by
  unfold boundCapabilities
  rw [List.pairwise_map]
  exact Std.ExtTreeMap.ordered_keys_toList.filter _

/-- The bindings of a slot tie in the order of the listing. -/
theorem Keyed.pairwise_slot (h : i.Keyed) (c : TypeName) (q : Option Qualifier) :
    (i.slot c q).Pairwise fun a b => a.compareSlots b ≠ .gt := by
  refine List.pairwise_iff_forall_sublist.2 fun {a b} hsub => ?_
  obtain ⟨rfl, rfl⟩ := h c q a (hsub.subset (by simp))
  obtain ⟨hc, hq⟩ := h a.capability a.qualifier b (hsub.subset (by simp))
  simp [Binding.compareSlots, hc, hq]

end Index

namespace Registry

variable (r : Registry)

theorem resolve_cases (c : TypeName) (q : Option Qualifier) :
    (∃ b, r.index.slot c q = [b] ∧ r.resolve c q = .ok b) ∨
    (r.index.slot c q = [] ∧ r.resolve c q = .error (.unresolved c q (r.qualifiers c))) ∨
    (2 ≤ (r.index.slot c q).length ∧ r.resolve c q =
      .error (.ambiguous c q ((r.index.slot c q).map Binding.implementation))) := by
  unfold resolve resolveLogged
  match hslot : r.index.slot c q with
  | [] => exact .inr (.inl ⟨rfl, rfl⟩)
  | [b] => exact .inl ⟨b, rfl, rfl⟩
  | a :: b :: rest => exact .inr (.inr ⟨by simp, rfl⟩)

theorem mem_qualifiers_iff (c : TypeName) (q : Option Qualifier) :
    q ∈ r.qualifiers c ↔ ∀ e, r.resolve c q = .error e → e.isUnresolved = false := by
  unfold qualifiers
  rw [Index.mem_boundQualifiers_iff]
  obtain ⟨b, hslot, hresolve⟩ | ⟨hslot, hresolve⟩ | ⟨hslot, hresolve⟩ := r.resolve_cases c q
  · simp [hslot, hresolve]
  · simp [hslot, hresolve, BindError.isUnresolved]
  · have hne : r.index.slot c q ≠ [] := by
      intro hnil
      simp [hnil] at hslot
    simp [hne, hresolve, BindError.isUnresolved]

theorem mem_capabilities_iff (c : TypeName) : c ∈ r.capabilities ↔ r.qualifiers c ≠ [] := by
  unfold capabilities qualifiers
  rw [Index.mem_boundCapabilities_iff, ne_nil_iff_exists_mem]
  simp only [Index.mem_boundQualifiers_iff]

theorem bindings_eq_nil_iff : r.bindings = [] ↔ r.capabilities = [] := by
  unfold bindings capabilities
  rw [List.eq_nil_iff_forall_not_mem, List.eq_nil_iff_forall_not_mem]
  simp only [Index.mem_bindings_iff, Index.mem_boundCapabilities_iff, ne_nil_iff_exists_mem]
  constructor
  · rintro h c ⟨q, b, hb⟩
    exact h b ⟨c, q, hb⟩
  · rintro h b ⟨c, q, hb⟩
    exact h c ⟨q, b, hb⟩

/-- In strict order, nothing comes before the lack of a qualifier. -/
theorem head?_qualifiers {c : TypeName} (h : none ∈ r.qualifiers c) :
    (r.qualifiers c).head? = some none := by
  have hsorted := Index.pairwise_boundQualifiers (r.index.slots c)
  change (r.qualifiers c).Pairwise _ at hsorted
  cases hq : r.qualifiers c with
  | nil => simp [hq] at h
  | cons first rest =>
    rw [hq] at h hsorted
    rcases List.mem_cons.1 h with rfl | hrest
    · rfl
    · have hlt := (List.pairwise_cons.1 hsorted).1 none hrest
      cases first <;> cases hlt

/-- **Requests and listings agree.**  The index may have empty capabilities, empty slots and slots
with several bindings, as long as every binding carries the keys of its slot.

  * A request is answered by the bindings that are listed for its keys: with the binding if there is
    one, with all implementations in order if there are several, and with the known qualifiers of
    the capability if there is none.
  * The qualifiers of a capability are listed in strict order, none first, and they are those under
    which a request is not without answer.
  * The capabilities are listed in strict order by name, and they are those that have a qualifier.
  * The bindings are listed in order, by capability and then by qualifier.  Their number is what all
    slots hold together, and it is zero exactly if there is no capability. -/
theorem lookup_agrees_with_listings {r : Registry} (h : r.index.Keyed) :
    (∀ c q,
      let listed := r.bindings.filter (·.isFor c q)
      (∀ b, r.resolve c q = .ok b ↔ listed = [b]) ∧
      (r.resolve c q = .error (.ambiguous c q (listed.map Binding.implementation)) ↔
        2 ≤ listed.length) ∧
      (r.resolve c q = .error (.unresolved c q (r.qualifiers c)) ↔ listed = [])) ∧
    (∀ c,
      (r.qualifiers c).Pairwise (fun q q' => compare q q' = .lt) ∧
      (none ∈ r.qualifiers c → (r.qualifiers c).head? = some none) ∧
      ∀ q, q ∈ r.qualifiers c ↔ ∀ e, r.resolve c q = .error e → e.isUnresolved = false) ∧
    r.capabilities.Pairwise (fun c c' => compare c.text c'.text = .lt) ∧
    (∀ c, c ∈ r.capabilities ↔ r.qualifiers c ≠ []) ∧
    r.bindings.Pairwise (fun a b => a.compareSlots b ≠ .gt) ∧
    r.size = (r.index.toList.map fun entry =>
      (entry.2.toList.map fun slot => slot.2.length).sum).sum ∧
    (r.isEmpty = true ↔ r.size = 0) ∧ (r.size = 0 ↔ r.capabilities = []) := by
  refine ⟨?_, ?_, r.index.pairwise_boundCapabilities, r.mem_capabilities_iff, ?_, ?_, ?_, ?_⟩
  · intro c q listed
    have hlisted : listed = r.index.slot c q := h.filter_bindings c q
    rw [hlisted]
    obtain ⟨b, hslot, hresolve⟩ | ⟨hslot, hresolve⟩ | ⟨hslot, hresolve⟩ := r.resolve_cases c q
    · simp [hslot, hresolve]
    · simp [hslot, hresolve]
    · rw [hresolve]
      refine ⟨fun b => ?_, by simpa using hslot, ?_⟩
      · simp only [reduceCtorEq, false_iff]
        intro hone
        simp [hone] at hslot
      · simp only [Except.error.injEq, reduceCtorEq, false_iff]
        intro hnil
        simp [hnil] at hslot
  · exact fun c => ⟨Index.pairwise_boundQualifiers _, r.head?_qualifiers, r.mem_qualifiers_iff c⟩
  · refine h.pairwise_bindings h.pairwise_slot fun a b hlt => ?_
    rw [hlt]
    simp
  · simp only [size, bindings, Index.bindings, Slots.bindings, List.length_flatMap]
  · simp [isEmpty, size]
  · rw [size, List.length_eq_zero_iff, r.bindings_eq_nil_iff]

/-- A capability with two bindings in one slot and none in another. -/
def crowded : Registry where
  index := ((∅ : Index).setSlot (.ofString "Door") none
    [⟨.ofString "Door", none, .ofString "Oak"⟩, ⟨.ofString "Door", none, .ofString "Elm"⟩]).setSlot
      (.ofString "Door") (some (.named "Ash")) []

/-- The full slot is listed and has two answers, and the empty one is not listed. -/
theorem lookup_agrees_with_listings_crowded :
    crowded.index.Keyed ∧
      crowded.resolve (.ofString "Door") none =
        .error (.ambiguous (.ofString "Door") none [.ofString "Oak", .ofString "Elm"]) ∧
      some (.named "Ash") ∉ crowded.qualifiers (.ofString "Door") := by
  have hkeyed : crowded.index.Keyed := by
    intro c q b hb
    simp only [crowded, Index.slot_setSlot, Index.slot_empty] at hb
    split at hb
    · simp at hb
    · split at hb
      · rename_i hkeys
        obtain ⟨rfl, rfl⟩ := hkeys
        simp at hb
        rcases hb with rfl | rfl <;> exact ⟨rfl, rfl⟩
      · simp at hb
  obtain ⟨hanswers, hqualifiers, -⟩ := lookup_agrees_with_listings hkeyed
  have hanswer := (hanswers (.ofString "Door") none).2.1.2 (by decide +kernel)
  refine ⟨hkeyed, hanswer, fun hmem => ?_⟩
  have hasked := ((hqualifiers _).2.2 _).1 hmem _ ((hanswers _ _).2.2.2 (by decide +kernel))
  cases hasked

end Registry

end Wiring
