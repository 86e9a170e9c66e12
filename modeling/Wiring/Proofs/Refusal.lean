import Wiring.Proofs.Singles

/-!
  What a refusal leaves behind.

  A declaration that is refused leaves the pass as it was (`Pass.pass_of_register_error`,
  `Pass.pass_of_provide_error`).  Registering enters the slot before it looks at it, but it refuses
  only where the slot is taken, and there it enters nothing.

  Provisions that are made together stop at a place (`Pass.StopsAt`) if those before it are accepted
  and the one there is refused.  They fail exactly if they stop somewhere
  (`Pass.provideAll_eq_error_iff`), and there is only one such place (`Pass.StopsAt.unique`).

  Main statement: `Pass.refusal_keeps_what_was_accepted`, for any pass.
-/

namespace Wiring

namespace Pass

variable {p : Pass} {provisions : List Provision} {k : Nat} {e : BindError}

/-! ## Single declarations -/

theorem pass_of_register_error {c : TypeName} {q : Option Qualifier} {impl : TypeName}
    (h : (p.register c q impl).result = .error e) : (p.register c q impl).pass = p := by
  cases hslot : p.index.slot c q with
  | nil =>
    rw [register_of_free impl hslot] at h
    cases h
  | cons existing rest => rw [register_of_taken impl hslot]

theorem pass_of_provide_error {provision : Provision}
    (h : (p.provide provision).result = .error e) : (p.provide provision).pass = p := by
  cases hq : provision.qualifier with
  | error _ => rw [provide_of_error hq]
  | ok q =>
    rw [provide_of_ok hq] at h ⊢
    exact pass_of_register_error h

/-! ## Provisions that stop -/

/-- Provisions stop at a place if those before it are accepted and the one there is refused. -/
def StopsAt (p : Pass) (provisions : List Provision) (k : Nat) (e : BindError) : Prop :=
  p.AcceptsAll ((provisions.take k).map .provide) ∧
    ∃ provision, provisions[k]? = some provision ∧
      ((p.after ((provisions.take k).map .provide)).provide provision).result = .error e

theorem not_stopsAt_nil : ¬ p.StopsAt [] k e := by
  rintro ⟨-, provision, hprovision, -⟩
  cases hprovision

theorem stopsAt_cons_zero {provision : Provision} :
    p.StopsAt (provision :: provisions) 0 e ↔ (p.provide provision).result = .error e := by
  constructor
  · rintro ⟨-, other, hother, hrefused⟩
    cases hother
    exact hrefused
  · intro h
    exact ⟨p.acceptsAll_nil, provision, rfl, h⟩

theorem stopsAt_cons_succ {provision : Provision} :
    p.StopsAt (provision :: provisions) (k + 1) e ↔
      (p.provide provision).result = .ok () ∧
        (p.provide provision).pass.StopsAt provisions k e := by
  unfold StopsAt
  rw [List.take_succ_cons, List.map_cons, acceptsAll_cons, after_cons, List.getElem?_cons_succ,
    and_assoc]
  rfl

/-- Provisions fail with the error with which they stop somewhere. -/
theorem provideAll_eq_error_iff :
    (p.provideAll provisions).result = .error e ↔ ∃ k, p.StopsAt provisions k e := by
  induction provisions generalizing p with
  | nil =>
    constructor
    · intro h
      cases h
    · rintro ⟨k, hstop⟩
      exact absurd hstop not_stopsAt_nil
  | cons provision rest ih =>
    cases hresult : (p.provide provision).result with
    | error f =>
      rw [provideAll_of_error hresult]
      constructor
      · intro h
        exact ⟨0, stopsAt_cons_zero.2 h⟩
      · rintro ⟨k, hstop⟩
        cases k with
        | zero => exact stopsAt_cons_zero.1 hstop
        | succ k =>
          rw [(stopsAt_cons_succ.1 hstop).1] at hresult
          cases hresult
    | ok _ =>
      rw [provideAll_of_ok hresult]
      refine ih.trans ⟨?_, ?_⟩
      · rintro ⟨k, hstop⟩
        exact ⟨k + 1, stopsAt_cons_succ.2 ⟨hresult, hstop⟩⟩
      · rintro ⟨k, hstop⟩
        cases k with
        | zero =>
          rw [stopsAt_cons_zero.1 hstop] at hresult
          cases hresult
        | succ k => exact ⟨k, (stopsAt_cons_succ.1 hstop).2⟩

/-- Provisions stop at one place only: the one that is refused there would have to be accepted to
come to a later place. -/
theorem StopsAt.unique {j : Nat} {f : BindError} (h : p.StopsAt provisions k e)
    (hother : p.StopsAt provisions j f) : j = k := by
  induction provisions generalizing p k j with
  | nil => exact absurd h not_stopsAt_nil
  | cons provision rest ih =>
    cases k with
    | zero =>
      have hrefused := stopsAt_cons_zero.1 h
      cases j with
      | zero => rfl
      | succ j =>
        rw [(stopsAt_cons_succ.1 hother).1] at hrefused
        cases hrefused
    | succ k =>
      obtain ⟨haccepted, hrest⟩ := stopsAt_cons_succ.1 h
      cases j with
      | zero =>
        rw [stopsAt_cons_zero.1 hother] at haccepted
        cases haccepted
      | succ j => rw [ih hrest (stopsAt_cons_succ.1 hother).2]

/-- Provisions that stop leave the pass that those before the place make. -/
theorem StopsAt.pass_provideAll (h : p.StopsAt provisions k e) :
    (p.provideAll provisions).pass = p.after ((provisions.take k).map .provide) := by
  induction provisions generalizing p k with
  | nil => exact absurd h not_stopsAt_nil
  | cons provision rest ih =>
    cases k with
    | zero =>
      have hrefused := stopsAt_cons_zero.1 h
      rw [provideAll_of_error hrefused]
      exact pass_of_provide_error hrefused
    | succ k =>
      obtain ⟨haccepted, hrest⟩ := stopsAt_cons_succ.1 h
      rw [provideAll_of_ok haccepted]
      exact ih hrest

/-- What follows the place has no effect: neither on the pass nor on the result nor on what is
reported. -/
theorem StopsAt.provideAll_take (h : p.StopsAt provisions k e) (more : List Provision) :
    p.provideAll (provisions.take (k + 1) ++ more) = p.provideAll provisions := by
  induction provisions generalizing p k with
  | nil => exact absurd h not_stopsAt_nil
  | cons provision rest ih =>
    rw [List.take_succ_cons, List.cons_append]
    cases k with
    | zero =>
      have hrefused := stopsAt_cons_zero.1 h
      rw [provideAll_of_error hrefused, provideAll_of_error hrefused]
    | succ k =>
      obtain ⟨haccepted, hrest⟩ := stopsAt_cons_succ.1 h
      rw [provideAll_of_ok haccepted, provideAll_of_ok haccepted, ih hrest]

/-! ## Modules -/

/-- The calls that a module comes down to before its provision at a place: the declarations of all
its markers, and the provisions before the place. -/
def callsBefore (m : Module) (k : Nat) : List Call :=
  m.markers.toList.map .declare ++ (m.provisions.take k).map .provide

/-- The pass in which all markers of a module are declared. -/
def declareAll (p : Pass) (m : Module) : Pass := p.after (m.markers.toList.map .declare)

theorem addModule_eq (m : Module) : p.addModule m = (p.declareAll m).provideAll m.provisions := by
  unfold addModule declareAll
  rw [(acceptsAll_declares p m.markers.toList).2]

theorem isSingle_of_mem_callsBefore {m : Module} : ∀ c ∈ callsBefore m k, c.isSingle = true :=
  fun _ hc => Call.isSingle_of_mem_singles (c := .addModule ⟨m.markers, m.provisions.take k⟩) hc

theorem mem_declared_callsBefore {m : Module} {marker : String} :
    marker ∈ declared (callsBefore m k) ↔
      ∃ written ∈ m.markers, canonicalSpelling written = marker := by
  have hnone : ((m.provisions.take k).map Call.provide).filterMap Call.marker? = [] := by
    rw [List.filterMap_map]
    exact List.filterMap_eq_nil_iff.2 fun _ _ => rfl
  unfold declared callsBefore
  rw [List.filterMap_append, hnone, List.append_nil, List.filterMap_map]
  simp [Call.marker?]

/-! ## The main statement -/

/-- **What a refusal leaves behind.**  A binding or a provision that is refused leaves the pass as
it was, with its index, its markers and its checks.  A module fails only at one place: there the
provision is refused, after all markers are declared and the provisions before it are accepted.  The
pass is then the one that these declarations and provisions make; all markers of the module have
joined those from before, and whatever follows the place has no effect. -/
theorem refusal_keeps_what_was_accepted (p : Pass) :
    (∀ c q impl e, (p.register c q impl).result = .error e → (p.register c q impl).pass = p) ∧
    (∀ provision e, (p.provide provision).result = .error e → (p.provide provision).pass = p) ∧
    ∀ m e,
      ((p.addModule m).result = .error e ↔ ∃! k, (p.declareAll m).StopsAt m.provisions k e) ∧
      ∀ k, (p.declareAll m).StopsAt m.provisions k e →
        (p.addModule m).pass = p.after (callsBefore m k) ∧
        (p.addModule m).pass.checks = p.checks ∧
        (∀ marker, marker ∈ (p.addModule m).pass.markers ↔
          marker ∈ p.markers ∨ ∃ written ∈ m.markers, canonicalSpelling written = marker) ∧
        ∀ more, p.addModule ⟨m.markers, m.provisions.take (k + 1) ++ more⟩ = p.addModule m := by
  refine ⟨fun _ _ _ _ => pass_of_register_error, fun _ _ => pass_of_provide_error, ?_⟩
  intro m e
  constructor
  · rw [addModule_eq, provideAll_eq_error_iff]
    constructor
    · rintro ⟨k, hstop⟩
      exact ⟨k, hstop, fun j hj => hstop.unique hj⟩
    · rintro ⟨k, hstop, -⟩
      exact ⟨k, hstop⟩
  intro k hstop
  have hpass : (p.addModule m).pass = p.after (callsBefore m k) := by
    rw [addModule_eq, hstop.pass_provideAll, declareAll, callsBefore, after_append]
  refine ⟨hpass, ?_, ?_, ?_⟩
  · rw [hpass, checks_after p isSingle_of_mem_callsBefore]
  · intro marker
    rw [hpass, mem_markers_after p isSingle_of_mem_callsBefore, mem_declared_callsBefore]
  · intro more
    rw [addModule_eq, addModule_eq]
    exact hstop.provideAll_take more

/-- A pass in which a door is bound. -/
def oakDoor : Pass := (start {}).after [.register (.ofString "Door") none (.ofString "Oak")]

/-- A module that declares a marker, and whose second provision is for a door. -/
def furnished : Module :=
  { markers := (∅ : MarkerSet).insert "shop.Main"
    provisions := [.ofNames "Slate" "Roof", .ofNames "Elm" "Door", .ofNames "Ash" "Wall"] }

/-- A second door, a wall by what is no wall and a wall under a blank qualifier are refused, and the
pass stays as it was.  The module keeps its marker and its roof, and has no wall. -/
theorem refusal_keeps_what_was_accepted_oakDoor :
    (oakDoor.register (.ofString "Door") none (.ofString "Elm")).pass = oakDoor ∧
      (oakDoor.provide ((Provision.ofNames "Elm" "Wall").implementing ["Roof"])).pass = oakDoor ∧
      (oakDoor.provide ((Provision.ofNames "Elm" "Wall").qualifiedBy " ")).pass = oakDoor ∧
      (∃! k, (oakDoor.declareAll furnished).StopsAt furnished.provisions k
        (.boundTwice (.ofString "Door") none (.ofString "Oak") (.ofString "Elm"))) ∧
      (oakDoor.addModule furnished).pass =
        oakDoor.after [.declare "shop.Main", .provide (.ofNames "Slate" "Roof")] := by
  obtain ⟨hregister, hprovide, hmodule⟩ := refusal_keeps_what_was_accepted oakDoor
  have htaken : (oakDoor.register (.ofString "Door") none (.ofString "Elm")).result =
      .error (.boundTwice (.ofString "Door") none (.ofString "Oak") (.ofString "Elm")) := by cbv
  have hnoWall : (oakDoor.provide ((Provision.ofNames "Elm" "Wall").implementing ["Roof"])).result =
      .error (.notAnImplementer (.ofString "Elm") (.ofString "Wall")) := by cbv
  have hblank : (oakDoor.provide ((Provision.ofNames "Elm" "Wall").qualifiedBy " ")).result =
      .error (.invalidQualifier .empty) := by cbv
  have hresult : (oakDoor.addModule furnished).result =
      .error (.boundTwice (.ofString "Door") none (.ofString "Oak") (.ofString "Elm")) := by
    decide +kernel
  have hdeclared : furnished.markers.toList = ["shop.Main"] := by cbv
  have hstop : (oakDoor.declareAll furnished).StopsAt furnished.provisions 1
      (.boundTwice (.ofString "Door") none (.ofString "Oak") (.ofString "Elm")) := by
    refine ⟨acceptsAll_cons.2 ⟨?_, acceptsAll_nil _⟩, .ofNames "Elm" "Door", rfl, ?_⟩
    · decide +kernel
    · decide +kernel
  obtain ⟨hplace, hstopped⟩ := hmodule furnished _
  refine ⟨hregister _ _ _ _ htaken, hprovide _ _ hnoWall, hprovide _ _ hblank, hplace.1 hresult, ?_⟩
  rw [(hstopped 1 hstop).1, callsBefore, hdeclared]
  rfl

end Pass

end Wiring
