import Wiring.Proofs.BuildVerdict

/-!
  What the check for missing qualifiers counts.

  The check speaks of several implementations, but it counts bindings, and one implementation may
  have more than one of them.  A capability is refused if it has a binding without qualifier and one
  under a qualifier (`Index.Sound.several_iff`), whatever implementations they bind.  So a sole
  implementation is refused as well once it is also bound under a name
  (`Pass.build_of_soleImplementation`).

  Main statements: `Session.missingQualifier_counts_bindings`, and
  `Session.missingQualifier_of_soleImplementation` for what does not hold.
-/

namespace Wiring

namespace Index

variable {i : Index}

theorem Sound.slot_eq_iff (hi : i.Sound) {c : TypeName} {q : Option Qualifier} {impl : TypeName} :
    i.slot c q = [⟨c, q, impl⟩] ↔ ⟨c, q, impl⟩ ∈ i.bindings := by
  rw [mem_bindings_iff]
  constructor
  · intro hslot
    exact ⟨c, q, by simp [hslot]⟩
  · rintro ⟨c', q', hb⟩
    obtain ⟨hslot, rfl, rfl⟩ := hi.eq_singleton_of_mem hb
    exact hslot

theorem Sound.slot_ne_nil_iff (hi : i.Sound) {c : TypeName} {q : Option Qualifier} :
    i.slot c q ≠ [] ↔ ∃ impl, ⟨c, q, impl⟩ ∈ i.bindings := by
  constructor
  · intro hne
    obtain ⟨b, hb⟩ := List.exists_mem_of_ne_nil _ hne
    obtain ⟨-, rfl, rfl⟩ := hi.eq_singleton_of_mem hb
    exact ⟨b.implementation, mem_bindings_iff.2 ⟨_, _, hb⟩⟩
  · rintro ⟨impl, hmem⟩
    simp [hi.slot_eq_iff.2 hmem]

/-- A capability that is bound without qualifier has several bindings exactly if it is bound under a
qualifier, too. -/
theorem Sound.several_iff (hi : i.Sound) {c : TypeName} (hnone : i.slot c none ≠ []) :
    1 < (i.slots c).boundQualifiers.length ↔ ∃ q other, ⟨c, some q, other⟩ ∈ i.bindings := by
  have hmem : none ∈ (i.slots c).boundQualifiers := mem_boundQualifiers_iff.2 hnone
  have hnodup : (i.slots c).boundQualifiers.Nodup := by
    refine (pairwise_boundQualifiers (i.slots c)).imp ?_
    rintro q q' hlt rfl
    simp at hlt
  simp only [← hi.slot_ne_nil_iff]
  constructor
  · intro hseveral
    rw [← List.toFinset_card_of_nodup hnodup] at hseveral
    obtain ⟨q, hq, hne⟩ := Finset.exists_mem_ne hseveral none
    obtain ⟨q, rfl⟩ := Option.ne_none_iff_exists'.1 hne
    exact ⟨q, mem_boundQualifiers_iff.1 (List.mem_toFinset.1 hq)⟩
  · rintro ⟨q, hq⟩
    have hq : some q ∈ (i.slots c).boundQualifiers := mem_boundQualifiers_iff.2 hq
    rw [← List.toFinset_card_of_nodup hnodup, Finset.one_lt_card]
    exact ⟨none, List.mem_toFinset.2 hmem, some q, List.mem_toFinset.2 hq, by simp⟩

end Index

namespace Pass

variable {p : Pass} {c impl : TypeName}

/-- When a build is refused for a missing qualifier, in terms of the listed bindings. -/
theorem build_eq_missingQualifier_iff (hp : p.index.Sound) :
    p.build = .error (.missingQualifier c impl) ↔
      p.checks.requireQualifiers = true ∧ ⟨c, none, impl⟩ ∈ p.index.bindings ∧
        (∃ q other, ⟨c, some q, other⟩ ∈ p.index.bindings) ∧
        ¬ p.Violates c .capability ∧ ¬ p.Violates c .markers ∧
        ∀ c', compare c' c = .lt → p.index.Binds c' → ∀ k, ¬ p.Violates c' k := by
  rw [build_eq_error_iff, mistake?_eq_some_iff hp]
  constructor
  · rintro ⟨c', -, hobjects, hleast⟩
    cases hobjects with
    | @qualifiers b hcapability hmarkers h hslot =>
      obtain ⟨hon, hnone, hseveral⟩ := h
      have hb : b ∈ p.index.slot c none := by simp [hslot]
      obtain ⟨-, hc, hq⟩ := hp.eq_singleton_of_mem hb
      have hlisted : (⟨c, none, b.implementation⟩ : Binding) ∈ p.index.bindings := by
        rw [← hp.slot_eq_iff, hslot, ← hc, ← hq]
      exact ⟨hon, hlisted, (hp.several_iff hnone).1 hseveral, hcapability, hmarkers, hleast⟩
  · rintro ⟨hon, hlisted, hseveral, hcapability, hmarkers, hleast⟩
    have hslot := hp.slot_eq_iff.2 hlisted
    have hnone : p.index.slot c none ≠ [] := by simp [hslot]
    have hviolates : p.Violates c .qualifiers := ⟨hon, hnone, (hp.several_iff hnone).2 hseveral⟩
    exact ⟨c, ⟨none, hnone⟩, .qualifiers hcapability hmarkers hviolates hslot, hleast⟩

/-- An implementation is bound to a capability without qualifier, and once more under a name. -/
def soleImplementation (c impl : TypeName) (key : String) : List Call :=
  [.register c none impl, .register c (some (.named key)) impl]

theorem mem_bindings_soleImplementation (checks : Checks) (c impl : TypeName) (key : String) :
    let p := (start checks).after (soleImplementation c impl key)
    p.markers = ∅ ∧ p.checks = checks ∧
      ∀ b, b ∈ p.index.bindings ↔ b = ⟨c, some (.named key), impl⟩ ∨ b = ⟨c, none, impl⟩ := by
  intro p
  have hfree : (∅ : Index).slot c none = [] := Index.slot_empty _ _
  have hnext : ((∅ : Index).add ⟨c, none, impl⟩).slot c (some (.named key)) = [] := by
    simp [Index.slot_add]
  have hone : ((∅ : Index).add ⟨c, none, impl⟩).Sound := Index.sound_empty.add hfree
  have hfirst := Index.sound_empty.perm_bindings_add (b := ⟨c, none, impl⟩) hfree
  have hboth := hone.perm_bindings_add (b := ⟨c, some (.named key), impl⟩) hnext
  have hempty : (∅ : Index).bindings = [] := rfl
  have hp : p = { start checks with
      index := ((∅ : Index).add ⟨c, none, impl⟩).add ⟨c, some (.named key), impl⟩ } := by
    change (((start checks).register c none impl).pass.register c (some (.named key)) impl).pass = _
    rw [register_of_free (p := start checks) impl hfree, register_of_free impl hnext]
    rfl
  rw [hp]
  refine ⟨rfl, rfl, ?_⟩
  intro b
  rw [hboth.mem_iff, List.mem_cons, hfirst.mem_iff, List.mem_cons, hempty]
  simp

/-- **A sole implementation counts as several** where it is also bound under a name, whatever the
capability, the implementation and the name are. -/
theorem build_of_soleImplementation (c impl : TypeName) (key : String) :
    ((start { requireQualifiers := true }).after (soleImplementation c impl key)).build =
      .error (.missingQualifier c impl) := by
  obtain ⟨hmarkers, hchecks, hmem⟩ :=
    mem_bindings_soleImplementation { requireQualifiers := true } c impl key
  have hsound : ((start { requireQualifiers := true }).after
      (soleImplementation c impl key)).index.Sound :=
    (kept_sound.after (sound_start _) fun call _ => call.tries_true).index
  rw [build_eq_missingQualifier_iff hsound]
  refine ⟨by rw [hchecks], (hmem _).2 (.inr rfl), ⟨_, _, (hmem _).2 (.inl rfl)⟩, ?_, ?_, ?_⟩
  · simp [Violates, hmarkers]
  · simp [Violates, hchecks]
  · -- No other capability is bound, so none comes before this one.
    rintro c' hlt ⟨q, hq⟩
    obtain ⟨other, hother⟩ := hsound.slot_ne_nil_iff.1 hq
    rcases (hmem _).1 hother with heq | heq
    · cases heq
      simp at hlt
    · cases heq
      simp at hlt

end Pass

namespace Session

/-- **What is refused for a missing qualifier.**  After any steps of a session, the build is refused
with `missingQualifier` for a capability and an implementation exactly if the check is made, the
implementation is bound to the capability without qualifier, the capability is also bound under a
qualifier, by whatever implementation, and no other check comes first.  If that implementation has
no other binding for the capability, then a different one is bound to it. -/
theorem missingQualifier_counts_bindings (checks : Checks) (registry : Registry)
    (steps : List Step) (c impl : TypeName) :
    let p := (Progress.after checks registry steps).session.pass
    (p.build = .error (.missingQualifier c impl) ↔
      checks.requireQualifiers = true ∧ ⟨c, none, impl⟩ ∈ p.index.bindings ∧
        (∃ q other, ⟨c, some q, other⟩ ∈ p.index.bindings) ∧
        ¬ p.Violates c .capability ∧ ¬ p.Violates c .markers ∧
        ∀ c', compare c' c = .lt → p.index.Binds c' → ∀ k, ¬ p.Violates c' k) ∧
    (p.build = .error (.missingQualifier c impl) →
      (∀ q, ⟨c, some q, impl⟩ ∉ p.index.bindings) →
        ∃ q other, ⟨c, some q, other⟩ ∈ p.index.bindings ∧ other ≠ impl) := by
  intro p
  have hsound : p.index.Sound := (Progress.sound_after checks registry steps).index
  have hchecks : p.checks = checks := Progress.checks_after checks registry steps
  have hiff := @Pass.build_eq_missingQualifier_iff p c impl hsound
  rw [hchecks] at hiff
  refine ⟨hiff, ?_⟩
  intro hbuild honce
  obtain ⟨-, -, ⟨q, other, hother⟩, -⟩ := hiff.1 hbuild
  refine ⟨q, other, hother, ?_⟩
  rintro rfl
  exact honce q hother

/-- The build of a door with a sole implementation. -/
def soleDoor : List Step :=
  (Pass.soleImplementation (.ofString "Door") (.ofString "Oak") "Oak").map .call

/-- Both bindings of the door are by one implementation. -/
theorem missingQualifier_counts_bindings_soleDoor :
    ⟨.ofString "Door", none, .ofString "Oak"⟩ ∈
      (Progress.after { requireQualifiers := true } {} soleDoor).session.pass.index.bindings := by
  have hbuild : (Progress.after { requireQualifiers := true } {} soleDoor).session.pass.build =
      .error (.missingQualifier (.ofString "Door") (.ofString "Oak")) :=
    Pass.build_of_soleImplementation _ _ _
  obtain ⟨hiff, -⟩ := missingQualifier_counts_bindings { requireQualifiers := true } {} soleDoor
    (.ofString "Door") (.ofString "Oak")
  exact (hiff.1 hbuild).2.1

/-- It does not hold that a capability refused for a missing qualifier has a binding by a different
implementation: the door with a sole implementation has none. -/
theorem missingQualifier_of_soleImplementation :
    ¬ ∀ (checks : Checks) (registry : Registry) (steps : List Step) (c impl : TypeName),
      let p := (Progress.after checks registry steps).session.pass
      p.build = .error (.missingQualifier c impl) →
        ⟨c, none, impl⟩ ∈ p.index.bindings ∧
          ∃ q other, ⟨c, q, other⟩ ∈ p.index.bindings ∧ other ≠ impl := by
  intro hall
  obtain ⟨-, q, other, hother, hne⟩ := hall { requireQualifiers := true } {} soleDoor
    (.ofString "Door") (.ofString "Oak") (Pass.build_of_soleImplementation _ _ _)
  obtain ⟨-, -, hmem⟩ := Pass.mem_bindings_soleImplementation { requireQualifiers := true }
    (.ofString "Door") (.ofString "Oak") "Oak"
  rcases (hmem _).1 hother with heq | heq
  · cases heq
    exact hne rfl
  · cases heq
    exact hne rfl

end Session

end Wiring
