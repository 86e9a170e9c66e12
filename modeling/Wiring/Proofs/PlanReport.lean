import Wiring.Proofs.Consistency

/-!
  What a plan says and reports of every accessor.

  A survey visits the accessors one by one.  `Registry.visit_events` says what one visit reports and
  `Registry.events_planLogged` what all of them do: for each accessor in order, the events of its
  request, and then the warning about it if there is one (`Registry.complaint?`).  A request reports
  no warning of its own, so the warnings of a plan are those about its accessors
  (`Registry.warnings_planLogged`), and there are as many as there are errors
  (`Registry.length_complaints`).

  Main statement: `Registry.plan_reports_every_accessor`, for any index.
-/

namespace Wiring

namespace Registry

variable {r : Registry}

/-! ## The bindings and the errors -/

theorem failure?_eq_none_iff {a : Accessor} :
    r.failure? a = none ↔ ∃ b, r.resolve a.capability a.qualifier = .ok b := by
  unfold failure?
  cases r.resolve a.capability a.qualifier with
  | ok b => simp
  | error e => simp

theorem failures_eq_nil_iff {accessors : List Accessor} :
    accessors.filterMap r.failure? = [] ↔
      ∀ a ∈ accessors, ∃ b, r.resolve a.capability a.qualifier = .ok b := by
  simp only [List.filterMap_eq_nil_iff, failure?_eq_none_iff]

/-- A place in a plan is that of an accessor if it has the binding that answers its request. -/
def Plans (r : Registry) (a : Accessor) (p : PlannedAccessor) : Prop :=
  p.accessor = a ∧ r.resolve a.capability a.qualifier = .ok p.binding

theorem forall₂_planned {accessors : List Accessor}
    (h : ∀ a ∈ accessors, ∃ b, r.resolve a.capability a.qualifier = .ok b) :
    List.Forall₂ r.Plans accessors (accessors.filterMap r.planned?) := by
  induction accessors with
  | nil => exact .nil
  | cons a rest ih =>
    obtain ⟨⟨b, hb⟩, hrest⟩ := List.forall_mem_cons.1 h
    have hplanned : r.planned? a = some ⟨a, b⟩ := planned?_eq_some_iff.2 ⟨hb, rfl⟩
    rw [List.filterMap_cons_some hplanned]
    exact .cons ⟨rfl, hb⟩ (ih hrest)

/-- A plan is made exactly if all requests have a binding. -/
theorem exists_plan_iff {c : Component} :
    (∃ p, r.plan c = .ok p) ↔
      ∀ a ∈ c.accessors, ∃ b, r.resolve a.capability a.qualifier = .ok b := by
  simp only [plan_eq, List.isEmpty_iff, ← failures_eq_nil_iff]
  by_cases h : c.accessors.filterMap r.failure? = []
  · simp [h]
  · simp [h]

theorem forall₂_of_plan {c : Component} {p : Plan} (h : r.plan c = .ok p) :
    p.component = c.name ∧ List.Forall₂ r.Plans c.accessors p.accessors := by
  have hall := exists_plan_iff.1 ⟨p, h⟩
  rw [plan_eq, if_pos (List.isEmpty_iff.2 (failures_eq_nil_iff.2 hall))] at h
  cases h
  exact ⟨rfl, forall₂_planned hall⟩

theorem errors_of_plan {c : Component} {e : PlanError} (h : r.plan c = .error e) :
    e.component = c.name ∧ e.errors = c.accessors.filterMap r.failure? := by
  rw [plan_eq] at h
  split at h
  · cases h
  · cases h
    exact ⟨rfl, rfl⟩

/-! ## The events -/

/-- The warning about an accessor of a component, if its request has no binding. -/
def complaint? (r : Registry) (component : String) (a : Accessor) : Option Event :=
  match r.resolve a.capability a.qualifier with
  | .ok _ => none
  | .error e => some (.accessorUnresolved component a.name a.qualifier e)

/-- What is reported of an accessor: the events of its request, and the warning if there is one. -/
def report (r : Registry) (component : String) (a : Accessor) : List Event :=
  (r.resolveLogged a.capability a.qualifier).events ++ (r.complaint? component a).toList

theorem visit_events (component : String) (s : Survey) (a : Accessor) :
    (r.visit component s a).events = s.events ++ r.report component a := by
  cases hanswer : (r.resolveLogged a.capability a.qualifier).value with
  | ok b => simp [visit, report, complaint?, resolve, hanswer]
  | error e => simp [visit, report, complaint?, resolve, hanswer]

theorem foldl_visit_events (component : String) (accessors : List Accessor) (s : Survey) :
    (accessors.foldl (r.visit component) s).events =
      s.events ++ accessors.flatMap (r.report component) := by
  induction accessors generalizing s with
  | nil => simp
  | cons a rest ih =>
    rw [List.foldl_cons, ih, visit_events, List.flatMap_cons, List.append_assoc]

/-- A plan reports on every accessor, in order. -/
theorem events_planLogged (c : Component) :
    (r.planLogged c).events = c.accessors.flatMap (r.report c.name) :=
  foldl_visit_events c.name c.accessors {}

theorem warnings_resolveLogged (c : TypeName) (q : Option Qualifier) :
    (r.resolveLogged c q).events.filter (·.severity = .warning) = [] := by
  unfold resolveLogged
  match r.index.slot c q with
  | [] => rfl
  | [_] => rfl
  | _ :: _ :: _ => rfl

theorem severity_of_complaint {component : String} {a : Accessor} {w : Event}
    (h : r.complaint? component a = some w) : w.severity = .warning := by
  unfold complaint? at h
  cases hanswer : r.resolve a.capability a.qualifier with
  | ok b => simp [hanswer] at h
  | error e =>
    simp only [hanswer, Option.some.injEq] at h
    rw [← h]
    rfl

theorem warnings_report (component : String) (a : Accessor) :
    (r.report component a).filter (·.severity = .warning) = (r.complaint? component a).toList := by
  unfold report
  rw [List.filter_append, warnings_resolveLogged, List.nil_append]
  cases hcomplaint : r.complaint? component a with
  | none => rfl
  | some w => simp [severity_of_complaint hcomplaint]

/-- The warnings of a plan are those about its accessors, in order. -/
theorem warnings_planLogged (c : Component) :
    (r.planLogged c).events.filter (·.severity = .warning) =
      c.accessors.filterMap (r.complaint? c.name) := by
  rw [events_planLogged, List.filter_flatMap]
  simp only [warnings_report]
  exact (List.filterMap_eq_flatMap_toList _ _).symm

theorem length_complaints (component : String) (accessors : List Accessor) :
    (accessors.filterMap (r.complaint? component)).length =
      (accessors.filterMap r.failure?).length := by
  have hboth : ∀ a, (r.complaint? component a).isSome = (r.failure? a).isSome := by
    intro a
    unfold complaint? failure?
    cases r.resolve a.capability a.qualifier <;> rfl
  simp only [List.length_filterMap_eq_countP, hboth]

/-! ## Registries that were built -/

theorem keys_of_plan (h : r.index.Sound) {c : Component} {p : Plan} (hplan : r.plan c = .ok p) :
    ∀ a ∈ p.accessors, a.binding.capability = a.accessor.capability ∧
      a.binding.qualifier = a.accessor.qualifier :=
  fun _ ha => keys_of_resolve h (resolve_of_mem_plan hplan ha)

/-- An accessor fails on a sound registry because its request has no answer. -/
theorem unresolved_of_plan (h : r.index.Sound) {c : Component} {e : PlanError}
    (hplan : r.plan c = .error e) :
    ∀ f ∈ e.errors, ∃ a ∈ c.accessors, a.name = f.1 ∧
      f.2 = .unresolved a.capability a.qualifier (r.qualifiers a.capability) := by
  intro f hf
  obtain ⟨a, ha, hname, hresolve⟩ := resolve_of_mem_errors hplan hf
  refine ⟨a, ha, hname, ?_⟩
  rcases resolve_of_sound h a.capability a.qualifier with ⟨impl, hok⟩ | herror
  · rw [hok] at hresolve
    cases hresolve
  · rw [herror, Except.error.injEq] at hresolve
    exact hresolve.symm

/-! ## The main statement -/

/-- **A plan accounts for every accessor, in order.**  There is a plan exactly if all requests have
a binding, and then it has a place for each accessor with the binding that answers its request.
Otherwise the error has the name and the reason of every accessor that fails, and of no other.  For
each accessor the events of its request are reported, and then, if it fails, one warning with the
component, the accessor, the qualifier and the reason; so there are as many warnings as errors.  On
a registry that was built, the planned bindings carry the keys that were asked for, and the errors
are requests without an answer. -/
theorem plan_reports_every_accessor (r : Registry) (c : Component) :
    ((∃ p, r.plan c = .ok p) ↔
      ∀ a ∈ c.accessors, ∃ b, r.resolve a.capability a.qualifier = .ok b) ∧
    (∀ p, r.plan c = .ok p →
      p.component = c.name ∧ List.Forall₂ r.Plans c.accessors p.accessors) ∧
    (∀ e, r.plan c = .error e →
      e.component = c.name ∧ e.errors = c.accessors.filterMap r.failure?) ∧
    (r.planLogged c).events = c.accessors.flatMap (fun a =>
      (r.resolveLogged a.capability a.qualifier).events ++ (r.complaint? c.name a).toList) ∧
    (r.planLogged c).events.filter (·.severity = .warning) =
      c.accessors.filterMap (r.complaint? c.name) ∧
    (∀ a b, r.resolve a.capability a.qualifier = .ok b → r.complaint? c.name a = none) ∧
    (∀ a e, r.resolve a.capability a.qualifier = .error e →
      ∃ w, r.complaint? c.name a = some w ∧ w.severity = .warning ∧ w.fields =
        [("component", .text c.name), ("accessor", .text a.name),
          ("qualifier", .text (Qualifier.describe a.qualifier)), ("error", .text e.message)]) ∧
    ((r.planLogged c).events.filter (·.severity = .warning)).length =
      (match r.plan c with
        | .ok _ => 0
        | .error e => e.errors.length) ∧
    ∀ checks registry steps,
      (Session.Progress.after checks registry steps).session.build.2.value = .ok r →
        (∀ p, r.plan c = .ok p → ∀ a ∈ p.accessors,
          a.binding.capability = a.accessor.capability ∧
            a.binding.qualifier = a.accessor.qualifier) ∧
        ∀ e, r.plan c = .error e → ∀ f ∈ e.errors, ∃ a ∈ c.accessors, a.name = f.1 ∧
          f.2 = .unresolved a.capability a.qualifier (r.qualifiers a.capability) := by
  refine ⟨exists_plan_iff, fun p hp => forall₂_of_plan hp, fun e he => errors_of_plan he,
    events_planLogged c, warnings_planLogged c, ?_, ?_, ?_, ?_⟩
  · intro a b hb
    unfold complaint?
    rw [hb]
  · intro a e he
    refine ⟨.accessorUnresolved c.name a.name a.qualifier e, ?_, rfl, rfl⟩
    unfold complaint?
    rw [he]
  · rw [warnings_planLogged, length_complaints]
    cases hplan : r.plan c with
    | ok p => rw [failures_eq_nil_iff.2 (exists_plan_iff.1 ⟨p, hplan⟩), List.length_nil]
    | error e => exact congrArg List.length (errors_of_plan hplan).2.symm
  · intro checks registry steps hbuild
    have hsound : r.index.Sound := by
      rw [Session.index_of_build hbuild]
      exact (Session.Progress.sound_after checks registry steps).index
    exact ⟨fun p hp => keys_of_plan hsound hp, fun e he => unresolved_of_plan hsound he⟩

/-- The request for a door. -/
def frontDoor : Accessor := ⟨"front", .ofString "Door", none⟩

/-- The request for a roof. -/
def flatRoof : Accessor := ⟨"roof", .ofString "Roof", none⟩

/-- A session that builds a registry with a door and no roof. -/
def oneDoor : List Session.Step :=
  [.call (.register (.ofString "Door") none (.ofString "Oak"))]

/-- What is said of the roof, which the session does not bind. -/
def noRoof : String × BindError := ("roof", .unresolved (.ofString "Roof") none [])

/-- Two doors can be planned, and both come with the keys that were asked for.  A roof that is asked
for twice is missing twice. -/
theorem plan_reports_every_accessor_oneDoor :
    ∃ r, (Session.Progress.after {} {} oneDoor).session.build.2.value = .ok r ∧
      (∃ p, r.plan ⟨"House", [frontDoor, frontDoor]⟩ = .ok p ∧
        List.Forall₂ r.Plans [frontDoor, frontDoor] p.accessors ∧
        ∀ a ∈ p.accessors, a.binding.capability = a.accessor.capability) ∧
      r.plan ⟨"Barn", [flatRoof, frontDoor, flatRoof]⟩ = .error ⟨"Barn", [noRoof, noRoof]⟩ ∧
      [flatRoof, frontDoor, flatRoof].filterMap r.failure? = [noRoof, noRoof] := by
  let r : Registry := ⟨(Session.Progress.after {} {} oneDoor).session.pass.index⟩
  have hbuild : (Session.Progress.after {} {} oneDoor).session.build.2.value = .ok r := by cbv
  obtain ⟨hok, hplan, -, -, -, -, -, -, hbuilt⟩ :=
    plan_reports_every_accessor r ⟨"House", [frontDoor, frontDoor]⟩
  obtain ⟨-, -, herror, -⟩ :=
    plan_reports_every_accessor r ⟨"Barn", [flatRoof, frontDoor, flatRoof]⟩
  have hdoor : r.resolve frontDoor.capability frontDoor.qualifier =
      .ok ⟨.ofString "Door", none, .ofString "Oak"⟩ := by cbv
  have hroof : r.resolve flatRoof.capability flatRoof.qualifier = .error noRoof.2 := by cbv
  have hbarn : r.plan ⟨"Barn", [flatRoof, frontDoor, flatRoof]⟩ =
      .error ⟨"Barn", [noRoof, noRoof]⟩ := by
    have hmissing : r.failure? flatRoof = some noRoof := by
      unfold failure?
      rw [hroof]
      rfl
    have hfine : r.failure? frontDoor = none := failure?_eq_none_iff.2 ⟨_, hdoor⟩
    simp [plan_eq, hmissing, hfine]
  obtain ⟨p, hp⟩ := hok.2 (by
    intro a ha
    simp only [List.mem_cons, List.not_mem_nil, or_false, or_self] at ha
    exact ⟨_, ha ▸ hdoor⟩)
  refine ⟨r, hbuild, ⟨p, hp, (hplan p hp).2, fun a ha => ?_⟩, hbarn, (herror _ hbarn).2.symm⟩
  exact ((hbuilt {} {} oneDoor hbuild).1 p hp a ha).1

end Registry

end Wiring
