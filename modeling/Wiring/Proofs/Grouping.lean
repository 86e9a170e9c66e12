import Wiring.Proofs.BuildVerdict

/-!
  How declarations are grouped into modules.

  `Module.merge` puts modules together, and `Pass.addModules` adds them one after the other, up to
  the first that is refused.  Declaring markers is a change beside the index, so it can be moved
  behind the provisions of a module (`Pass.addModule_eq_mapPass`), and from there behind those of
  all the modules that follow (`Pass.exists_addModules_eq`).  What is left is one row of provisions,
  in which the borders between the modules do not show.

  Main statement: `Pass.grouping_makes_no_difference`.
-/

namespace Wiring

/-! ## Merged modules -/

namespace Module

/-- The module that declares what some modules declare: the markers of all of them, and their
provisions one after the other. -/
def merge (ms : List Module) : Module where
  markers := ms.foldr (fun m markers => m.markers ∪ markers) ∅
  provisions := ms.flatMap provisions

theorem mem_markers_merge {ms : List Module} {marker : String} :
    marker ∈ (merge ms).markers ↔ ∃ m ∈ ms, marker ∈ m.markers := by
  unfold merge
  induction ms with
  | nil => simp
  | cons m rest ih => simpa using or_congr_right ih

end Module

namespace Pass

variable {p : Pass} {ms : List Module}

/-- Adds modules one after the other, up to the first that is refused. -/
def addModules (p : Pass) : List Module → Outcome
  | [] => .accept p
  | m :: rest => (p.addModule m).andThen fun next => next.addModules rest

/-! ## The markers of modules -/

/-- The pass in which the markers of some modules are declared. -/
def withMarkersOf (ms : List Module) (p : Pass) : Pass :=
  (ms.flatMap (·.markers.toList)).foldl withMarker p

theorem withMarkersOf_cons (m : Module) (ms : List Module) (p : Pass) :
    withMarkersOf (m :: ms) p = withMarkersOf ms (withMarkersOf [m] p) := by
  unfold withMarkersOf
  rw [List.flatMap_cons, List.foldl_append, List.flatMap_singleton]

theorem aside_withMarkersOf (ms : List Module) : Aside (withMarkersOf ms) := aside_withMarkers _

theorem mem_markers_withMarkersOf {marker : String} :
    marker ∈ (withMarkersOf ms p).markers ↔
      marker ∈ p.markers ∨ ∃ m ∈ ms, ∃ s ∈ m.markers, canonicalSpelling s = marker := by
  unfold withMarkersOf
  rw [foldl_withMarker]
  simp only [Std.ExtTreeSet.mem_insertMany_list, List.contains_iff_mem, List.mem_map,
    List.mem_flatMap, Std.ExtTreeSet.mem_toList]
  refine or_congr_right ⟨?_, ?_⟩
  · rintro ⟨s, ⟨m, hm, hs⟩, rfl⟩
    exact ⟨m, hm, s, hs, rfl⟩
  · rintro ⟨m, hm, s, hs, rfl⟩
    exact ⟨s, ⟨m, hm, hs⟩, rfl⟩

theorem withMarkersOf_merge (ms : List Module) :
    withMarkersOf [.merge ms] = withMarkersOf ms := by
  funext p
  have hmarkers : (withMarkersOf [.merge ms] p).markers = (withMarkersOf ms p).markers := by
    apply Std.ExtTreeSet.ext_mem
    intro marker
    simp only [mem_markers_withMarkersOf, List.mem_singleton, exists_eq_left,
      Module.mem_markers_merge]
    grind
  unfold withMarkersOf at hmarkers ⊢
  rw [foldl_withMarker, foldl_withMarker] at hmarkers ⊢
  rw [Pass.mk.injEq]
  exact ⟨rfl, rfl, hmarkers⟩

/-! ## Modules as rows of provisions -/

/-- The markers of a module can be declared after its provisions. -/
theorem addModule_eq_mapPass (p : Pass) (m : Module) :
    p.addModule m = (p.provideAll m.provisions).mapPass (withMarkersOf [m]) := by
  have hmarkers : m.markers.toList.foldl withMarker p = withMarkersOf [m] p := by
    rw [withMarkersOf, List.flatMap_singleton]
  unfold addModule
  rw [hmarkers]
  exact (aside_withMarkersOf [m]).provideAll p m.provisions

theorem addModule_merge (p : Pass) (ms : List Module) :
    p.addModule (.merge ms) =
      (p.provideAll (Module.merge ms).provisions).mapPass (withMarkersOf ms) := by
  rw [addModule_eq_mapPass, withMarkersOf_merge]

/-- **Modules in a row come to one row of provisions.**  The markers that are declared are those of
the modules that are reached, and these are all modules if no provision is refused. -/
theorem exists_addModules_eq (p : Pass) (ms : List Module) :
    ∃ reached, reached <+: ms ∧
      ((p.provideAll (Module.merge ms).provisions).result = .ok () → reached = ms) ∧
      p.addModules ms =
        (p.provideAll (Module.merge ms).provisions).mapPass (withMarkersOf reached) := by
  induction ms generalizing p with
  | nil => exact ⟨[], List.prefix_rfl, fun _ => rfl, rfl⟩
  | cons m rest ih =>
    have hrow : p.provideAll (Module.merge (m :: rest)).provisions =
        (p.provideAll m.provisions).andThen (·.provideAll (Module.merge rest).provisions) := by
      unfold Module.merge
      rw [List.flatMap_cons, provideAll_append]
    rw [addModules, addModule_eq_mapPass, hrow]
    cases hresult : (p.provideAll m.provisions).result with
    | error e =>
      rw [Outcome.andThen_of_error (o := Outcome.mapPass _ _) hresult,
        Outcome.andThen_of_error hresult, hresult]
      refine ⟨[m], ⟨rest, rfl⟩, ?_, rfl⟩
      intro hok
      cases hok
    | ok _ =>
      rw [Outcome.andThen_of_ok (o := Outcome.mapPass _ _) hresult, Outcome.andThen_of_ok hresult]
      obtain ⟨reached, hreached, hall, hrest⟩ :=
        ih (withMarkersOf [m] (p.provideAll m.provisions).pass)
      rw [(aside_withMarkersOf [m]).provideAll] at hall hrest
      refine ⟨m :: reached, List.cons_prefix_cons.2 ⟨rfl, hreached⟩, ?_, ?_⟩
      · intro hok
        rw [hall hok]
      · simp only [Outcome.mapPass, hrest, withMarkersOf_cons m reached]

/-! ## The main statement -/

theorem result_addModules (p : Pass) (ms : List Module) :
    (p.addModules ms).result = (p.provideAll (Module.merge ms).provisions).result := by
  obtain ⟨reached, -, -, hparts⟩ := p.exists_addModules_eq ms
  rw [hparts]
  rfl

theorem addModules_eq_of_ok (h : (p.addModules ms).result = .ok ()) :
    p.addModules ms = p.addModule (.merge ms) := by
  obtain ⟨reached, -, hall, hparts⟩ := p.exists_addModules_eq ms
  rw [result_addModules] at h
  rw [hparts, hall h, addModule_merge]

/-- The checks of a pass have no part in the answer. -/
theorem result_addModules_withChecks (p : Pass) (checks : Checks) (ms : List Module) :
    ((p.withChecks checks).addModules ms).result = (p.addModules ms).result := by
  rw [result_addModules, result_addModules, (aside_withChecks checks).provideAll]
  rfl

/-- **How declarations are grouped into modules makes no difference.**  Modules are added to any
pass, one after the other up to the first that is refused, or all at once as the merged module.
The answer is the same and so are the index and the reports, whether it is an acceptance or a
refusal, and no marker is declared that the merged module does not declare.  If the answer is an
acceptance then nothing differs at all, and whatever checks the pass is to make, it builds the same
registry or fails with the same mistake. -/
theorem grouping_makes_no_difference (p : Pass) (ms : List Module) :
    let parts := p.addModules ms
    let whole := p.addModule (.merge ms)
    parts.result = whole.result ∧ parts.pass.index = whole.pass.index ∧
      parts.events = whole.events ∧ parts.pass.checks = whole.pass.checks ∧
      (∀ marker ∈ parts.pass.markers, marker ∈ whole.pass.markers) ∧
      (parts.result = .ok () → parts = whole ∧ ∀ checks,
        ((p.withChecks checks).addModules ms).pass.build =
          ((p.withChecks checks).addModule (.merge ms)).pass.build) := by
  intro parts whole
  obtain ⟨reached, hreached, -, hparts⟩ := p.exists_addModules_eq ms
  have hwhole := p.addModule_merge ms
  have hmarkers : ∀ marker ∈ parts.pass.markers, marker ∈ whole.pass.markers := by
    intro marker hmarker
    simp only [parts, whole, hparts, hwhole, Outcome.mapPass, mem_markers_withMarkersOf]
      at hmarker ⊢
    refine hmarker.imp_right ?_
    rintro ⟨m, hm, hs⟩
    exact ⟨m, hreached.subset hm, hs⟩
  have hindex : parts.pass.index = whole.pass.index := by
    simp only [parts, whole, hparts, hwhole, Outcome.mapPass, (aside_withMarkersOf _).index]
  have hchecks : parts.pass.checks = whole.pass.checks := by
    simp only [parts, whole, hparts, hwhole, Outcome.mapPass, withMarkersOf, foldl_withMarker]
  have hresult : parts.result = whole.result := by
    simp only [parts, whole, hparts, hwhole, Outcome.mapPass]
  have hevents : parts.events = whole.events := by
    simp only [parts, whole, hparts, hwhole, Outcome.mapPass]
  refine ⟨hresult, hindex, hevents, hchecks, hmarkers, ?_⟩
  intro hok
  refine ⟨addModules_eq_of_ok hok, fun checks => ?_⟩
  have hok' := (p.result_addModules_withChecks checks ms).trans hok
  rw [addModules_eq_of_ok hok']

/-- Modules of which the third one has a door like the first. -/
def houseModules : List Module :=
  [{ markers := (∅ : MarkerSet).insert " a . Q"
     provisions := [.ofNames "Oak" "Door", .ofNames "Slate" "Roof"] },
    { provisions := [(Provision.ofNames "Elm" "Wall").qualifiedBy "@b.Q"] },
    { provisions := [.ofNames "Ash" "Door", .ofNames "Ash" "Gate"] },
    { markers := (∅ : MarkerSet).insert "b.Q" }]

/-- The second door is refused in either grouping, and the index is the same.  Only the merged
module declares the marker that comes after it.  Without the last two modules, nothing differs. -/
theorem grouping_makes_no_difference_house :
    ((start {}).addModule (.merge houseModules)).result =
        .error (.boundTwice (.ofString "Door") none (.ofString "Oak") (.ofString "Ash")) ∧
      ((start {}).addModules houseModules).pass.index =
        ((start {}).addModule (.merge houseModules)).pass.index ∧
      "b.Q" ∉ ((start {}).addModules houseModules).pass.markers ∧
      "b.Q" ∈ ((start {}).addModule (.merge houseModules)).pass.markers ∧
      (start {}).addModules (houseModules.take 2) =
        (start {}).addModule (.merge (houseModules.take 2)) := by
  have hrefused : ((start {}).addModules houseModules).result =
      .error (.boundTwice (.ofString "Door") none (.ofString "Oak") (.ofString "Ash")) := by
    decide +kernel
  have haccepted : ((start {}).addModules (houseModules.take 2)).result = .ok () := by
    decide +kernel
  obtain ⟨hresult, hindex, -⟩ := grouping_makes_no_difference (start {}) houseModules
  obtain ⟨-, -, -, -, -, hsame⟩ := grouping_makes_no_difference (start {}) (houseModules.take 2)
  exact ⟨hresult.symm.trans hrefused, hindex, by decide +kernel, by decide +kernel,
    (hsame haccepted).1⟩

end Pass

end Wiring
