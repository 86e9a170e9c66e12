import Wiring.Session
import Wiring.Proofs.Slot

/-!
  Indices without the names of their implementations.

  `Index.forget` puts one implementation in the place of all.  Which slots are filled is all that is
  left, so sound indices with the same slots filled become equal (`Index.Sound.forget_eq`).  The
  checks of a pass see the same mistake before and after, up to the implementation that the
  mistake names (`Index.mistake?_forget`).  So the implementations do not decide about a build.
-/

namespace Wiring

/-- The binding with the implementation forgotten. -/
def Binding.forget (b : Binding) : Binding := { b with implementation := default }

/-- The mistake of a check, with the implementation forgotten. -/
def BindError.forget : BindError → BindError
  | .capabilityIsMarker _ capability => .capabilityIsMarker default capability
  | .unknownMarker _ marker => .unknownMarker default marker
  | .missingQualifier capability _ => .missingQualifier capability default
  | e => e

/-- The slots of a capability, with the implementations forgotten. -/
def Slots.forget (s : Slots) : Slots := s.map fun _ bs => bs.map Binding.forget

/-- The index, with the implementations forgotten. -/
def Index.forget (i : Index) : Index := i.map fun _ s => s.forget

namespace Index

/-! ## The slots that are filled -/

theorem slot_forget (i : Index) (c : TypeName) (q : Option Qualifier) :
    i.forget.slot c q = (i.slot c q).map Binding.forget := by
  have hslots : i.forget.slots c = (i.slots c).forget := by
    rw [slots_eq_getD, slots_eq_getD]
    unfold forget
    rw [Std.ExtTreeMap.getElem?_map]
    cases i[c]? with
    | none => simp [Slots.forget]
    | some s => rfl
  rw [slot_eq_getD, slot_eq_getD, hslots]
  unfold Slots.forget
  rw [Std.ExtTreeMap.getElem?_map]
  cases (i.slots c)[q]? with
  | none => rfl
  | some bs => rfl

namespace Sound

variable {i j : Index}

theorem forget (hi : i.Sound) : i.forget.Sound := by
  constructor
  · intro c s hs
    unfold Index.forget at hs
    rw [Std.ExtTreeMap.getElem?_map] at hs
    obtain ⟨s', hs', rfl⟩ := Option.map_eq_some_iff.1 hs
    have hne : s' ≠ ∅ := hi.slots_ne_empty c s' hs'
    intro hempty
    refine hne ?_
    apply Std.ExtTreeMap.ext_getElem?
    intro q
    have hq : s'.forget[q]? = (∅ : Slots)[q]? := by rw [hempty]
    unfold Slots.forget at hq
    rw [Std.ExtTreeMap.getElem?_map] at hq
    simpa using hq
  · intro c s q bs hs hq
    unfold Index.forget at hs
    rw [Std.ExtTreeMap.getElem?_map] at hs
    obtain ⟨s', hs', rfl⟩ := Option.map_eq_some_iff.1 hs
    unfold Slots.forget at hq
    rw [Std.ExtTreeMap.getElem?_map] at hq
    obtain ⟨bs', hbs', rfl⟩ := Option.map_eq_some_iff.1 hq
    obtain ⟨impl, rfl⟩ := hi.slot_singleton c s' q bs' hs' hbs'
    exact ⟨default, rfl⟩

/-- A filled slot holds one binding, of which only the keys are left. -/
theorem slot_forget_eq (hi : i.Sound) (c : TypeName) (q : Option Qualifier) :
    i.forget.slot c q = if i.slot c q = [] then [] else [⟨c, q, default⟩] := by
  rw [Index.slot_forget]
  cases hslot : i.slot c q with
  | nil => rfl
  | cons b rest =>
    have hb : b ∈ i.slot c q := by simp [hslot]
    obtain ⟨hsingle, rfl, rfl⟩ := hi.eq_singleton_of_mem hb
    rw [hslot] at hsingle
    rw [hsingle]
    rfl

/-- Sound indices with the same slots filled differ in the implementations alone. -/
theorem forget_eq (hi : i.Sound) (hj : j.Sound)
    (h : ∀ c q, i.slot c q = [] ↔ j.slot c q = []) : i.forget = j.forget := by
  refine hi.forget.ext hj.forget ?_
  intro c q
  rw [hi.slot_forget_eq, hj.slot_forget_eq]
  simp only [h]

end Sound

end Index

/-! ## The mistakes of the checks -/

theorem Binding.markerMistake?_forget (markers : MarkerSet) (b : Binding) :
    b.forget.markerMistake? markers = (b.markerMistake? markers).map BindError.forget := by
  obtain ⟨capability, qualifier, implementation⟩ := b
  cases qualifier with
  | none => rfl
  | some q =>
    cases q with
    | named key => rfl
    | marked marker argument =>
      simp only [Binding.forget, Binding.markerMistake?]
      by_cases hmem : marker ∈ markers
      · rw [if_pos hmem, if_pos hmem]
        rfl
      · rw [if_neg hmem, if_neg hmem]
        rfl

namespace Slots

theorem bindings_forget (s : Slots) : s.forget.bindings = s.bindings.map Binding.forget := by
  unfold bindings forget
  rw [Std.ExtTreeMap.toList_map, List.flatMap_map, List.map_flatMap]

theorem capabilityMistake?_forget (markers : MarkerSet) (c : TypeName) (s : Slots) :
    s.forget.capabilityMistake? markers c =
      (s.capabilityMistake? markers c).map BindError.forget := by
  unfold capabilityMistake?
  by_cases hmem : c.text ∈ markers
  · rw [if_pos hmem, if_pos hmem, bindings_forget, List.head?_map, Option.map_map, Option.map_map]
    rfl
  · rw [if_neg hmem, if_neg hmem]
    rfl

theorem markerMistake?_forget (markers : MarkerSet) (s : Slots) :
    s.forget.markerMistake? markers = (s.markerMistake? markers).map BindError.forget := by
  unfold markerMistake?
  rw [bindings_forget, List.findSome?_map, List.map_findSome?]
  have heach : (fun b : Binding => b.markerMistake? markers) ∘ Binding.forget =
      Option.map BindError.forget ∘ fun b : Binding => b.markerMistake? markers := by
    funext b
    exact b.markerMistake?_forget markers
  rw [heach]

theorem qualifierMistake?_forget (c : TypeName) (s : Slots) :
    s.forget.qualifierMistake? c = (s.qualifierMistake? c).map BindError.forget := by
  have hnone : s.forget.getD none [] = (s.getD none []).map Binding.forget := by
    unfold forget
    rw [Std.ExtTreeMap.getD_map, Std.ExtTreeMap.getD_eq_getD_getElem?]
    cases s[(none : Option Qualifier)]? with
    | none => rfl
    | some bs => rfl
  unfold qualifierMistake?
  rw [bindings_forget, List.length_map, hnone]
  by_cases hseveral : 1 < s.bindings.length
  · rw [if_pos hseveral, if_pos hseveral, List.head?_map, Option.map_map, Option.map_map]
    rfl
  · rw [if_neg hseveral, if_neg hseveral]
    rfl

theorem mistake?_forget (checks : Checks) (markers : MarkerSet) (c : TypeName) (s : Slots) :
    s.forget.mistake? checks markers c = (s.mistake? checks markers c).map BindError.forget := by
  unfold mistake?
  rw [capabilityMistake?_forget, markerMistake?_forget, qualifierMistake?_forget]
  simp only [Option.orElse_eq_orElse, Option.orElse_eq_or, Option.map_or, apply_ite (Option.map _),
    Option.map_none]

end Slots

/-- The first mistake in an index is the same, up to the implementation that it names. -/
theorem Index.mistake?_forget (checks : Checks) (markers : MarkerSet) (i : Index) :
    i.forget.mistake? checks markers = (i.mistake? checks markers).map BindError.forget := by
  unfold mistake? forget
  rw [Std.ExtTreeMap.toList_map, List.findSome?_map, List.map_findSome?]
  congr 1
  funext entry
  exact entry.2.mistake?_forget checks markers entry.1

end Wiring
