import Wiring.Proofs.FirstMistake
import Wiring.Proofs.Reachable

/-!
  The verdict of a build, after any run.

  The passes of a session are sound, so `Pass.mistake?_eq_none_iff` and `Pass.mistake?_eq_some_iff`
  say of each what its build answers.  The registry of a build that succeeds lists the attempts that
  were accepted (`Pass.Abides.mem_bindings_iff`).  The checks have no part in a run before it is
  built (`Session.Progress.pass_after_withChecks`), so fewer checks refuse less and change nothing
  else.

  Main statement: `Session.build_reports_first_violation`.
-/

namespace Wiring

namespace Pass

/-! ## What is listed -/

theorem Abides.mem_bindings_iff {p : Pass} {attempts : List Attempt} (h : p.Abides attempts)
    {b : Binding} : b ∈ p.index.bindings ↔ ⟨b, .ok ()⟩ ∈ attempts := by
  have hfirst : b ∈ p.index.bindings ↔
      firstFor (tried attempts) b.capability b.qualifier = some b := by
    rw [Index.mem_bindings_iff]
    simp only [h.records.slot_eq, Option.mem_toList]
    constructor
    · rintro ⟨c, q, hb⟩
      obtain ⟨rfl, rfl⟩ := Binding.isFor_iff.1 (by simpa using List.find?_some hb)
      exact hb
    · exact fun hb => ⟨_, _, hb⟩
  rw [hfirst, firstFor, List.find?_eq_some_iff_append]
  simp only [Bool.not_eq_true', Binding.isFor_iff, and_self, true_and]
  constructor
  · rintro ⟨before, after, htried, hbefore⟩
    obtain ⟨front, rest, hattempts, rfl, hrest⟩ := List.map_eq_append_iff.1 htried
    obtain ⟨a, back, rfl, rfl, -⟩ := List.map_eq_cons_iff.1 hrest
    have hresult : a.result = .ok () := by
      rw [h.firstWins front a back hattempts]
      exact verdict_eq_ok_iff.2 hbefore
    rw [hattempts, ← hresult]
    exact List.mem_append_right _ List.mem_cons_self
  · intro hmem
    obtain ⟨front, back, hattempts⟩ := List.append_of_mem hmem
    refine ⟨tried front, tried back, by simp [hattempts, tried], ?_⟩
    exact verdict_eq_ok_iff.1 (h.firstWins front _ back hattempts).symm

/-! ## Passes that differ in their checks -/

/-- The pass with other checks. -/
def withChecks (p : Pass) (checks : Checks) : Pass := { p with checks }

end Pass

namespace Outcome

/-- The outcome with other checks in its pass. -/
def withChecks (o : Outcome) (checks : Checks) : Outcome :=
  { o with pass := o.pass.withChecks checks }

end Outcome

namespace Pass

theorem aside_withChecks (checks : Checks) : Aside (·.withChecks checks) := fun _ _ => rfl

theorem withMarkers_withChecks (p : Pass) (checks : Checks) (markers : List String) :
    markers.foldl withMarker (p.withChecks checks) =
      (markers.foldl withMarker p).withChecks checks := by
  rw [foldl_withMarker, foldl_withMarker]
  rfl

theorem call_withChecks (p : Pass) (checks : Checks) (c : Call) :
    (p.withChecks checks).call c = (p.call c).withChecks checks := by
  have haside := aside_withChecks checks
  cases c with
  | register c q impl => exact haside.register p c q impl
  | provide provision => exact haside.provide p provision
  | declare marker => rfl
  | addModule m =>
    change (m.markers.toList.foldl withMarker (p.withChecks checks)).provideAll m.provisions = _
    rw [withMarkers_withChecks]
    exact haside.provideAll (m.markers.toList.foldl withMarker p) m.provisions

end Pass

namespace Session.Progress

/-- Sessions with the same steps come to the same pass, up to the checks that it is to make. -/
theorem pass_after_withChecks (checks checks' : Checks) (registry registry' : Registry)
    (steps : List Step) :
    (after checks' registry' steps).session.pass =
      (after checks registry steps).session.pass.withChecks checks' := by
  have run : ∀ g g' : Progress, g'.session.pass = g.session.pass.withChecks checks' →
      (steps.foldl step g').session.pass =
        (steps.foldl step g).session.pass.withChecks checks' := by
    induction steps with
    | nil => exact fun g g' h => h
    | cons s rest ih =>
      intro g g' h
      refine ih (g.step s) (g'.step s) ?_
      cases s with
      | call c =>
        change (g'.session.pass.call c).pass = _
        rw [h, Pass.call_withChecks]
        rfl
      | build =>
        change g'.session.pass.restart = _
        rw [h]
        rfl
  exact run _ _ rfl

theorem checks_after (checks : Checks) (registry : Registry) (steps : List Step) :
    (after checks registry steps).session.pass.checks = checks := by
  rw [pass_after_withChecks checks checks registry registry steps]
  rfl

end Session.Progress

/-! ## Fewer checks -/

/-- No check is made that the other checks do not make. -/
structure Checks.Within (fewer checks : Checks) : Prop where
  requireQualifiers : fewer.requireQualifiers = true → checks.requireQualifiers = true
  declaredMarkersOnly : fewer.declaredMarkersOnly = true → checks.declaredMarkersOnly = true

theorem Pass.Violates.of_within {p : Pass} {fewer : Checks} (hfewer : fewer.Within p.checks)
    {c : TypeName} {k : Check} (h : (p.withChecks fewer).Violates c k) : p.Violates c k := by
  cases k with
  | capability => exact h
  | markers => exact ⟨hfewer.declaredMarkersOnly h.1, h.2⟩
  | qualifiers => exact ⟨hfewer.requireQualifiers h.1, h.2⟩

namespace Session

/-- **The verdict of a build.**  After any steps of a session, the build succeeds exactly if no
capability that is bound violates a check, and its registry lists just the bindings that were
accepted, in strict order.  Otherwise it fails with what is said of the least capability that
violates one, by name: the first check that it violates, at its first slot that shows the violation.
The same steps under fewer checks build the same registry. -/
theorem build_reports_first_violation (checks : Checks) (registry : Registry)
    (steps : List Step) :
    let g := Progress.after checks registry steps
    let p := g.session.pass
    p.checks = checks ∧
    ((∃ r, p.build = .ok r) ↔ ∀ c, p.index.Binds c → ∀ k, ¬ p.Violates c k) ∧
    (∀ r, p.build = .ok r →
      (∀ b, b ∈ r.bindings ↔ ⟨b, .ok ()⟩ ∈ g.attempts) ∧
        r.bindings.Pairwise fun a b => a.compareSlots b = .lt) ∧
    (∀ e, p.build = .error e ↔
      ∃ c, p.index.Binds c ∧ p.Objects c e ∧
        ∀ c', compare c' c = .lt → p.index.Binds c' → ∀ k, ¬ p.Violates c' k) ∧
    ∀ fewer : Checks, fewer.Within checks → ∀ r, p.build = .ok r →
      (Progress.after fewer registry steps).session.pass.build = .ok r := by
  intro g p
  have hsound : p.index.Sound := (Progress.sound_after checks registry steps).index
  have hchecks : p.checks = checks := Progress.checks_after checks registry steps
  refine ⟨hchecks, ?_, ?_, ?_, ?_⟩
  · rw [Pass.exists_build_eq_ok_iff, Pass.mistake?_eq_none_iff hsound]
  · intro r hr
    obtain ⟨-, rfl⟩ := Pass.build_eq_ok_iff.1 hr
    have habides : p.Abides g.attempts := Progress.after_abides checks registry steps
    exact ⟨fun b => habides.mem_bindings_iff, hsound.pairwise_bindings⟩
  · intro e
    rw [Pass.build_eq_error_iff, Pass.mistake?_eq_some_iff hsound]
  · intro fewer hfewer r hr
    obtain ⟨hnone, rfl⟩ := Pass.build_eq_ok_iff.1 hr
    rw [← hchecks] at hfewer
    rw [Pass.mistake?_eq_none_iff hsound] at hnone
    rw [Progress.pass_after_withChecks checks fewer registry registry steps, Pass.build_eq_ok_iff,
      Pass.mistake?_eq_none_iff (p := p.withChecks fewer) hsound]
    exact ⟨fun c hbinds k hviolates => hnone c hbinds k (hviolates.of_within hfewer), rfl⟩

/-- A wall with a binding under a marker that is not declared and one without qualifier, and a roof
in order. -/
def blueWall : List Step :=
  [.call (.register (.ofString "Wall") none (.ofString "Oak")),
    .call (.register (.ofString "Wall") (some (.marked "Blue" none)) (.ofString "Elm")),
    .call (.register (.ofString "Roof") none (.ofString "Ash"))]

/-- The wall is reported, and for its marker rather than for the binding without qualifier. -/
theorem build_reports_first_violation_blueWall :
    ∃ c, (Progress.after .strict {} blueWall).session.pass.Objects c
      (.unknownMarker (.ofString "Elm") "Blue") := by
  have hbuild : (Progress.after .strict {} blueWall).session.pass.build =
      .error (.unknownMarker (.ofString "Elm") "Blue") := by cbv
  obtain ⟨-, -, -, herror, -⟩ := build_reports_first_violation .strict {} blueWall
  obtain ⟨c, -, hobjects, -⟩ := (herror _).1 hbuild
  exact ⟨c, hobjects⟩

end Session

end Wiring
