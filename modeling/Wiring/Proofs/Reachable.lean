import Wiring.Proofs.FirstWins

/-!
  What every run of a pass keeps.

  A call tries bindings and declares markers, and does nothing else to a pass.  `Pass.Kept` says
  that a property survives both, for the bindings that are allowed, and then it survives every call
  (`Pass.Kept.call`) and every run (`Pass.Kept.after`), refused steps included.
  `Session.Progress.kept_after` is the same over sessions, where a build starts anew.

  `Pass.Sound` is the property that needs no condition on the bindings: the index is sound and the
  markers are in canonical spelling, in every pass that a session can come to
  (`Session.Progress.sound_after`).
-/

namespace Wiring

/-- A provision, if it is sound, tries a binding that is allowed. -/
def Provision.Tries (allowed : Binding → Prop) (provision : Provision) : Prop :=
  ∀ q, provision.qualifier = .ok q →
    allowed ⟨provision.capability, q, provision.implementation⟩

namespace Pass

/-- A call tries none but allowed bindings. -/
def Call.Tries (allowed : Binding → Prop) : Call → Prop
  | .register c q impl => allowed ⟨c, q, impl⟩
  | .provide provision => provision.Tries allowed
  | .declare _ => True
  | .addModule m => ∀ provision ∈ m.provisions, provision.Tries allowed

theorem Call.tries_true (c : Call) : c.Tries fun _ => True := by
  cases c with
  | register c q impl => exact trivial
  | provide provision => exact fun _ _ => trivial
  | declare marker => exact trivial
  | addModule m => exact fun _ _ _ _ => trivial

/-! ## Properties that runs keep -/

/-- A property of passes survives the registration of allowed bindings and the declaration of
markers. -/
structure Kept (allowed : Binding → Prop) (P : Pass → Prop) : Prop where
  register : ∀ {p : Pass} (b : Binding), P p → allowed b →
    P (p.register b.capability b.qualifier b.implementation).pass
  withMarker : ∀ {p : Pass} (marker : String), P p → P (p.withMarker marker)

namespace Kept

variable {allowed : Binding → Prop} {P : Pass → Prop} {p : Pass}

theorem provide (h : Kept allowed P) (hp : P p) {provision : Provision}
    (htries : provision.Tries allowed) : P (p.provide provision).pass := by
  cases hq : provision.qualifier with
  | error e =>
    rw [provide_of_error hq]
    exact hp
  | ok q =>
    rw [provide_of_ok hq]
    exact h.register ⟨provision.capability, q, provision.implementation⟩ hp (htries q hq)

theorem provideAll (h : Kept allowed P) (hp : P p) {provisions : List Provision}
    (htries : ∀ provision ∈ provisions, provision.Tries allowed) :
    P (p.provideAll provisions).pass := by
  induction provisions generalizing p with
  | nil => exact hp
  | cons provision rest ih =>
    obtain ⟨hhead, hrest⟩ := List.forall_mem_cons.1 htries
    have hnext : P (p.provide provision).pass := h.provide hp hhead
    cases hresult : (p.provide provision).result with
    | error e =>
      rw [provideAll_of_error hresult]
      exact hnext
    | ok _ =>
      rw [provideAll_of_ok hresult]
      exact ih hnext hrest

theorem withMarkers (h : Kept allowed P) (hp : P p) (markers : List String) :
    P (markers.foldl Pass.withMarker p) := by
  induction markers generalizing p with
  | nil => exact hp
  | cons marker rest ih => exact ih (h.withMarker marker hp)

theorem call (h : Kept allowed P) (hp : P p) {c : Call} (htries : c.Tries allowed) :
    P (p.call c).pass := by
  cases c with
  | register c q impl => exact h.register ⟨c, q, impl⟩ hp htries
  | provide provision => exact h.provide hp htries
  | declare marker => exact h.withMarker marker hp
  | addModule m => exact h.provideAll (h.withMarkers hp m.markers.toList) htries

theorem after (h : Kept allowed P) (hp : P p) {calls : List Call}
    (htries : ∀ c ∈ calls, c.Tries allowed) : P (p.after calls) := by
  induction calls generalizing p with
  | nil => exact hp
  | cons c rest ih =>
    obtain ⟨hc, hrest⟩ := List.forall_mem_cons.1 htries
    exact ih (h.call hp hc) hrest

end Kept

/-! ## Sound passes -/

/-- What every pass keeps: a sound index, and markers in canonical spelling. -/
structure Sound (p : Pass) : Prop where
  index : p.index.Sound
  markers : ∀ marker ∈ p.markers, canonicalSpelling marker = marker

theorem sound_start (checks : Checks) : (start checks).Sound where
  index := Index.sound_empty
  markers marker hmarker := by
    have hempty : marker ∉ (∅ : MarkerSet) := by simp
    exact absurd hmarker hempty

/-- A binding goes into the index only if its slot is empty, so the index stays sound. -/
theorem Sound.register {p : Pass} (h : p.Sound) (b : Binding) :
    (p.register b.capability b.qualifier b.implementation).pass.Sound := by
  cases hslot : p.index.slot b.capability b.qualifier with
  | nil =>
    rw [register_of_free _ hslot]
    exact ⟨h.index.add hslot, h.markers⟩
  | cons existing rest =>
    rw [register_of_taken _ hslot]
    exact h

theorem Sound.withMarker {p : Pass} (h : p.Sound) (marker : String) :
    (p.withMarker marker).Sound := by
  refine ⟨h.index, ?_⟩
  intro m hm
  unfold Pass.withMarker at hm
  rw [Std.ExtTreeSet.mem_insert, Std.LawfulEqOrd.compare_eq_iff_eq] at hm
  rcases hm with rfl | hm
  · exact canonicalSpelling_canonicalSpelling marker
  · exact h.markers m hm

theorem kept_sound : Kept (fun _ => True) Sound where
  register b h _ := h.register b
  withMarker marker h := h.withMarker marker

end Pass

namespace Session.Progress

/-- What calls keep and a new pass has holds of every pass that a session comes to. -/
theorem kept_after {P : Pass → Prop} (hkept : Pass.Kept (fun _ => True) P)
    (hstart : ∀ checks, P (.start checks)) (checks : Checks) (registry : Registry)
    (steps : List Step) : P (after checks registry steps).session.pass := by
  refine after_of_step (P := fun g => P g.session.pass) (hstart checks) ?_ steps
  intro g s h
  cases s with
  | call c => exact hkept.call h c.tries_true
  | build => exact hstart g.session.pass.checks

/-- Every pass that a session comes to is sound. -/
theorem sound_after (checks : Checks) (registry : Registry) (steps : List Step) :
    (after checks registry steps).session.pass.Sound :=
  kept_after Pass.kept_sound Pass.sound_start checks registry steps

end Session.Progress

end Wiring
