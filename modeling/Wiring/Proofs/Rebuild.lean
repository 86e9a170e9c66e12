import Wiring.Proofs.BuildVerdict
import Wiring.Proofs.Consistency
import Wiring.Proofs.Expression.RoundTrip
import Wiring.Proofs.Singles

/-!
  A registry can be built again from its listing.

  A provision gives its binding a qualifier that some expression denotes, and never a name marker
  that lacks its key (`Provision.isProvided_of_qualifier`).  Such a qualifier is read back from its
  written form, so the provision that is written down from a binding makes that binding again
  (`Binding.qualifier_provision`).  Where all bindings come from provisions this holds of the whole
  index (`Pass.Provided`), and no two of its bindings are for one slot, so the order in which they
  are provided does not matter.

  Main statement: `Pass.rebuild_from_listing`.
-/

namespace Wiring

/-! ## What provisions bind under -/

/-- What a provision can bind under: what an expression denotes, but no name marker without key. -/
structure Qualifier.IsProvided (q : Qualifier) : Prop where
  canonical : q.IsCanonical
  keyed : q.isKeyless = false

theorem Qualifier.isProvided_ofName (key : String) : (ofName key).IsProvided :=
  ⟨isCanonical_ofName key, rfl⟩

theorem Qualifier.IsProvided.parse_write {q : Qualifier} (h : q.IsProvided) :
    parse q.write = .ok q := parse_of_expresses h.canonical.expresses_write

/-- A binding has no qualifier, or one that a provision can bind under. -/
def Binding.IsProvided (b : Binding) : Prop := ∀ q, b.qualifier = some q → q.IsProvided

namespace Provision

/-- A sound provision has no expression, or its expression denotes its qualifier, up to the key that
a name marker may lack. -/
theorem qualifier_eq_ok_iff {p : Provision} {q : Option Qualifier} :
    p.qualifier = .ok q ↔ p.implementsCapability = true ∧
      ((p.expression = none ∧ q = none) ∨
        ∃ expression q', p.expression = some expression ∧ Qualifier.parse expression = .ok q' ∧
          q = some (p.resolveKeyless q')) := by
  unfold qualifier
  by_cases himplements : p.implementsCapability = true
  · rw [if_pos himplements]
    cases p.expression with
    | none => simp [himplements, eq_comm]
    | some expression =>
      cases hparse : Qualifier.parse expression with
      | ok q' => simp [himplements, hparse, eq_comm]
      | error e => simp [hparse]
  · simp [himplements]

theorem isProvided_resolveKeyless (p : Provision) {q : Qualifier} (h : q.IsCanonical) :
    (p.resolveKeyless q).IsProvided := by
  unfold resolveKeyless
  by_cases hkeyless : q.isKeyless = true
  · rw [if_pos hkeyless]
    exact Qualifier.isProvided_ofName p.implementation.text
  · rw [if_neg hkeyless]
    exact ⟨h, by simpa using hkeyless⟩

theorem isProvided_of_qualifier {p : Provision} {q : Qualifier} (h : p.qualifier = .ok (some q)) :
    q.IsProvided := by
  obtain ⟨-, ⟨-, hnone⟩ | ⟨expression, q', -, hparse, hq⟩⟩ := qualifier_eq_ok_iff.1 h
  · cases hnone
  · cases hq
    exact p.isProvided_resolveKeyless (Qualifier.isCanonical_of_parse hparse)

theorem tries_isProvided (p : Provision) : p.Tries Binding.IsProvided := by
  intro q hq q' hq'
  cases hq'
  exact isProvided_of_qualifier hq

end Provision

/-! ## The provision of a binding -/

namespace Binding

/-- The provision that a binding is written down as. -/
def provision (b : Binding) : Provision :=
  let unqualified := Provision.ofNames b.implementation.text b.capability.text
  match b.qualifier with
  | none => unqualified
  | some q => unqualified.qualifiedBy q.write

@[simp] theorem capability_provision (b : Binding) : b.provision.capability = b.capability := by
  unfold provision
  cases b.qualifier <;> exact TypeName.ofString_text b.capability

@[simp] theorem implementation_provision (b : Binding) :
    b.provision.implementation = b.implementation := by
  unfold provision
  cases b.qualifier <;> exact TypeName.ofString_text b.implementation

theorem qualifier_provision {b : Binding} (h : b.IsProvided) :
    b.provision.qualifier = .ok b.qualifier := by
  rw [Provision.qualifier_eq_ok_iff]
  unfold provision
  cases hq : b.qualifier with
  | none => exact ⟨rfl, .inl ⟨rfl, rfl⟩⟩
  | some q =>
    have hprovided : q.IsProvided := h q hq
    refine ⟨rfl, .inr ⟨q.write, q, rfl, hprovided.parse_write, ?_⟩⟩
    simp [Provision.resolveKeyless, hprovided.keyed]

theorem target?_provision {b : Binding} (h : b.IsProvided) :
    (Pass.Call.provide b.provision).target? = some b := by
  unfold Pass.Call.target?
  simp only [qualifier_provision h, capability_provision, implementation_provision]

end Binding

namespace Pass

/-- The calls that provide some bindings, one after the other. -/
def provisions (bs : List Binding) : List Call := bs.map fun b => .provide b.provision

theorem isSingle_provisions (bs : List Binding) : ∀ c ∈ provisions bs, c.isSingle = true := by
  intro c hc
  obtain ⟨b, -, rfl⟩ := List.mem_map.1 hc
  rfl

theorem targets_provisions {bs : List Binding} (h : ∀ b ∈ bs, b.IsProvided) :
    targets (provisions bs) = bs := by
  unfold targets provisions
  rw [List.filterMap_map]
  refine (List.filterMap_congr fun b hb => ?_).trans List.filterMap_some
  exact Binding.target?_provision (h b hb)

/-! ## Runs without direct registrations -/

/-- Whether a call registers a binding without a provision. -/
def Call.isDirect : Call → Bool
  | .register _ _ _ => true
  | _ => false

theorem Call.tries_isProvided {c : Call} (h : c.isDirect = false) :
    c.Tries Binding.IsProvided := by
  cases c with
  | register c q impl => cases h
  | provide provision => exact provision.tries_isProvided
  | declare marker => exact trivial
  | addModule m => exact fun provision _ => provision.tries_isProvided

/-- All bindings of a sound pass come from provisions. -/
structure Provided (p : Pass) : Prop where
  sound : p.Sound
  isProvided : ∀ b ∈ p.index.bindings, b.IsProvided

theorem kept_provided : Kept Binding.IsProvided Provided where
  register {p} b h hb := by
    refine ⟨h.sound.register b, ?_⟩
    cases hslot : p.index.slot b.capability b.qualifier with
    | cons existing rest =>
      rw [register_of_taken _ hslot]
      exact h.isProvided
    | nil =>
      rw [register_of_free _ hslot]
      intro a ha
      rw [(h.sound.index.perm_bindings_add hslot).mem_iff, List.mem_cons] at ha
      rcases ha with rfl | ha
      · exact hb
      · exact h.isProvided a ha
  withMarker marker h := ⟨h.sound.withMarker marker, h.isProvided⟩

/-- Without direct registrations, all bindings come from provisions. -/
theorem provided_after (checks : Checks) {calls : List Call}
    (h : ∀ c ∈ calls, c.isDirect = false) : ((start checks).after calls).Provided := by
  refine kept_provided.after ⟨sound_start checks, ?_⟩ fun c hc => Call.tries_isProvided (h c hc)
  intro b hb
  obtain ⟨c, q, hslot⟩ := Index.mem_bindings_iff.1 hb
  exact absurd hslot (by simp [start])

end Pass

/-! ## A listing as a history -/

namespace Index.Sound

variable {i : Index}

theorem nodup_keys (hi : i.Sound) : (i.bindings.map Binding.keys).Nodup := by
  rw [List.Nodup, List.pairwise_map]
  refine hi.pairwise_bindings.imp ?_
  intro a b hlt hkeys
  obtain ⟨hcapability, hqualifier⟩ := Prod.mk.inj hkeys
  simp [Binding.compareSlots, hcapability, hqualifier] at hlt

theorem records_bindings (hi : i.Sound) : i.Records i.bindings where
  sound := hi
  slot_eq c q := by
    cases hslot : i.slot c q with
    | cons b rest =>
      have hb : b ∈ i.slot c q := by simp [hslot]
      obtain ⟨hsingle, hcapability, hqualifier⟩ := hi.eq_singleton_of_mem hb
      have hfirst : firstFor i.bindings c q = some b :=
        (firstFor_eq_some_iff hi.nodup_keys).2
          ⟨mem_bindings_iff.2 ⟨c, q, hb⟩, Binding.isFor_iff.2 ⟨hcapability, hqualifier⟩⟩
      rw [hfirst, ← hslot, hsingle]
      rfl
    | nil =>
      have hfirst : firstFor i.bindings c q = none := by
        rw [firstFor_eq_none_iff]
        intro b hmem
        obtain ⟨c', q', hb⟩ := mem_bindings_iff.1 hmem
        obtain ⟨-, rfl, rfl⟩ := hi.eq_singleton_of_mem hb
        apply Bool.eq_false_iff.2
        intro hfor
        obtain ⟨rfl, rfl⟩ := Binding.isFor_iff.1 hfor
        rw [hslot] at hb
        cases hb
      rw [hfirst]
      rfl

end Index.Sound

theorem Registry.resolve_of_mem {r : Registry} (h : r.index.Sound) {b : Binding}
    (hb : b ∈ r.bindings) : r.resolve b.capability b.qualifier = .ok b := by
  rw [resolve_of_records h.records_bindings,
    (firstFor_eq_some_iff h.nodup_keys).2 ⟨hb, Binding.isFor_iff.2 ⟨rfl, rfl⟩⟩]

namespace Pass

/-- A pass that declares no marker builds without optional checks. -/
theorem build_of_markers_empty {p : Pass} (h : p.index.Sound) (hchecks : p.checks = {})
    (hmarkers : p.markers = ∅) : p.build = .ok ⟨p.index⟩ := by
  rw [build_eq_ok_iff, mistake?_eq_none_iff h]
  refine ⟨?_, rfl⟩
  intro c _ k hviolates
  cases k with
  | capability =>
    rw [Violates, hmarkers] at hviolates
    simp at hviolates
  | markers => simp [Violates, hchecks] at hviolates
  | qualifiers => simp [Violates, hchecks] at hviolates

/-! ## Providing a listing again -/

section Again

variable {bs : List Binding} (h : ∀ b ∈ bs, b.IsProvided)
include h

/-- The pass to which bindings are provided records them. -/
theorem records_provisions : ((start {}).after (provisions bs)).index.Records bs := by
  have hrecords := records_after_start {} (isSingle_provisions bs)
  rwa [targets_provisions h] at hrecords

theorem result_provisions (hnodup : (bs.map Binding.keys).Nodup) :
    ∀ a ∈ (start {}).answers (provisions bs), a.result = .ok () := by
  have hiff := acceptsAll_iff_nodup (p := start {}) Index.records_empty (by simp)
    (isSingle_provisions bs)
  rw [List.nil_append, targets_provisions h] at hiff
  refine hiff.2 ⟨?_, hnodup⟩
  intro c hc
  obtain ⟨b, hb, rfl⟩ := List.mem_map.1 hc
  simp only [Call.isInvalid, Binding.qualifier_provision (h b hb)]
  rfl

theorem build_provisions : ((start {}).after (provisions bs)).build =
    .ok ⟨((start {}).after (provisions bs)).index⟩ := by
  have hmarkers : ((start {}).after (provisions bs)).markers = ∅ := by
    apply Std.ExtTreeSet.ext_mem
    intro marker
    rw [mem_markers_after _ (isSingle_provisions bs)]
    simp [provisions, declared, Call.marker?, start]
  have hchecks : ((start {}).after (provisions bs)).checks = {} :=
    (start {}).checks_after (isSingle_provisions bs)
  exact build_of_markers_empty (records_provisions h).sound hchecks hmarkers

end Again

/-- **A registry can be built again from its listing.**  Its pass may have had any calls but direct
registrations.  Every listed binding answers the request with its keys and, if it has a qualifier,
the request by the written form of that.  If the bindings are provided to an empty pass without
optional checks, by their names and the written forms of their qualifiers and in any order, every
provision is accepted, and the build has the same registry. -/
theorem rebuild_from_listing (checks : Checks) {calls : List Call}
    (hcalls : ∀ c ∈ calls, c.isDirect = false) {r : Registry}
    (hbuild : ((start checks).after calls).build = .ok r) :
    (∀ b ∈ r.bindings,
      r.resolve b.capability b.qualifier = .ok b ∧
        ∀ q, b.qualifier = some q → r.resolveWith b.capability q.write = .ok b) ∧
    ∀ listed : List Binding, listed.Perm r.bindings →
      (∀ a ∈ (start {}).answers (provisions listed), a.result = .ok ()) ∧
        ((start {}).after (provisions listed)).build = .ok r := by
  obtain ⟨-, rfl⟩ := build_eq_ok_iff.1 hbuild
  have hprovided : ((start checks).after calls).Provided := provided_after checks hcalls
  have hsound : ((start checks).after calls).index.Sound := hprovided.sound.index
  constructor
  · intro b hb
    refine ⟨Registry.resolve_of_mem hsound hb, ?_⟩
    intro q hq
    have hread : Qualifier.parse q.write = .ok q := (hprovided.isProvided b hb q hq).parse_write
    rw [Registry.resolveWith_eq, hread]
    change Registry.resolve _ b.capability (some q) = .ok b
    rw [← hq]
    exact Registry.resolve_of_mem hsound hb
  · intro listed hperm
    have hlisted : ∀ b ∈ listed, b.IsProvided :=
      fun b hb => hprovided.isProvided b (hperm.mem_iff.1 hb)
    have hnodup : (listed.map Binding.keys).Nodup :=
      (hperm.map Binding.keys).nodup_iff.2 hsound.nodup_keys
    have hindex : ((start {}).after (provisions listed)).index =
        ((start checks).after calls).index :=
      (records_provisions hlisted).eq_of_perm hsound.records_bindings hnodup hperm
    refine ⟨result_provisions hlisted hnodup, ?_⟩
    rw [build_provisions hlisted, hindex]

/-- A door under the name of its implementation, which the expression leaves out, another one
without qualifier, and one that is refused. -/
def namedDoor : List Call :=
  [.provide ((Provision.ofNames "Ash" "Door").qualifiedBy "@Named"),
    .provide (Provision.ofNames "Oak" "Door"), .provide (Provision.ofNames "Elm" "Door")]

/-- The two doors that were accepted are listed, and can be provided again in reverse. -/
theorem rebuild_from_listing_namedDoor :
    ∃ r, ((start {}).after namedDoor).build = .ok r ∧ r.bindings.length = 2 ∧
      ((start {}).after (provisions r.bindings.reverse)).build = .ok r := by
  have hbuild : ((start {}).after namedDoor).build =
      .ok ⟨((start {}).after namedDoor).index⟩ := by cbv
  obtain ⟨-, hagain⟩ := rebuild_from_listing {} (by decide) hbuild
  exact ⟨_, hbuild, by decide +kernel, (hagain _ (List.reverse_perm _)).2⟩

end Pass

end Wiring
