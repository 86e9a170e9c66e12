import Mathlib
import Wiring.Component

/-!
  Plans, accessor by accessor.

  A survey visits the accessors in order and sorts each into one of two lists, by the answer to its
  request.  `Registry.planned_survey` and `Registry.errors_survey` give these lists without the
  loop: an accessor's share in them depends on its own request alone.  So a planned binding is the
  answer to its accessor (`Registry.resolve_of_mem_plan`), and an error is the answer to one of the
  accessors (`Registry.resolve_of_mem_errors`).
-/

namespace Wiring

namespace Registry

variable (r : Registry)

/-- The place of an accessor in a plan, if its request has a binding. -/
def planned? (a : Accessor) : Option PlannedAccessor :=
  match r.resolve a.capability a.qualifier with
  | .ok b => some ⟨a, b⟩
  | .error _ => none

/-- What is said of an accessor, if its request has no binding. -/
def failure? (a : Accessor) : Option (String × BindError) :=
  match r.resolve a.capability a.qualifier with
  | .ok _ => none
  | .error e => some (a.name, e)

variable {r}

theorem planned?_eq_some_iff {a : Accessor} {p : PlannedAccessor} :
    r.planned? a = some p ↔
      r.resolve a.capability a.qualifier = .ok p.binding ∧ p.accessor = a := by
  obtain ⟨accessor, binding⟩ := p
  unfold planned?
  cases r.resolve a.capability a.qualifier with
  | ok b => simp [and_comm, eq_comm]
  | error e => simp

theorem failure?_eq_some_iff {a : Accessor} {f : String × BindError} :
    r.failure? a = some f ↔ r.resolve a.capability a.qualifier = .error f.2 ∧ a.name = f.1 := by
  obtain ⟨name, error⟩ := f
  unfold failure?
  cases r.resolve a.capability a.qualifier with
  | ok b => simp
  | error e => simp [and_comm]

/-! ## The two lists of a survey -/

theorem visit_lists (component : String) (s : Survey) (a : Accessor) :
    (r.visit component s a).planned = s.planned ++ (r.planned? a).toList ∧
      (r.visit component s a).errors = s.errors ++ (r.failure? a).toList := by
  cases hanswer : (r.resolveLogged a.capability a.qualifier).value with
  | ok b => simp [visit, planned?, failure?, resolve, hanswer]
  | error e => simp [visit, planned?, failure?, resolve, hanswer]

/-- Visits add the share of each accessor, in order. -/
theorem foldl_visit_lists (component : String) (accessors : List Accessor) (s : Survey) :
    (accessors.foldl (r.visit component) s).planned =
        s.planned ++ accessors.filterMap r.planned? ∧
      (accessors.foldl (r.visit component) s).errors =
        s.errors ++ accessors.filterMap r.failure? := by
  induction accessors generalizing s with
  | nil => simp
  | cons a rest ih =>
    obtain ⟨hplanned, herrors⟩ := visit_lists (r := r) component s a
    obtain ⟨hrest, hrest'⟩ := ih (r.visit component s a)
    rw [List.foldl_cons, hrest, hrest', hplanned, herrors, List.append_assoc, List.append_assoc,
      List.filterMap_cons, List.filterMap_cons]
    cases r.planned? a <;> cases r.failure? a <;> exact ⟨rfl, rfl⟩

theorem planned_survey (c : Component) :
    (r.survey c).planned = c.accessors.filterMap r.planned? :=
  (foldl_visit_lists c.name c.accessors {}).1

theorem errors_survey (c : Component) :
    (r.survey c).errors = c.accessors.filterMap r.failure? :=
  (foldl_visit_lists c.name c.accessors {}).2

/-! ## Plans -/

/-- A plan has the bindings of all accessors, and there is none if one is missing. -/
theorem plan_eq (c : Component) :
    r.plan c =
      if (c.accessors.filterMap r.failure?).isEmpty then
        .ok ⟨c.name, c.accessors.filterMap r.planned?⟩
      else .error ⟨c.name, c.accessors.filterMap r.failure?⟩ := by
  simp only [plan, planLogged, planned_survey, errors_survey]

theorem resolve_of_mem_plan {c : Component} {p : Plan} (h : r.plan c = .ok p)
    {a : PlannedAccessor} (ha : a ∈ p.accessors) :
    r.resolve a.accessor.capability a.accessor.qualifier = .ok a.binding := by
  rw [plan_eq] at h
  split at h
  · cases h
    obtain ⟨accessor, -, hplanned⟩ := List.mem_filterMap.1 ha
    obtain ⟨hresolve, rfl⟩ := planned?_eq_some_iff.1 hplanned
    exact hresolve
  · cases h

theorem resolve_of_mem_errors {c : Component} {e : PlanError} (h : r.plan c = .error e)
    {f : String × BindError} (hf : f ∈ e.errors) :
    ∃ a ∈ c.accessors, a.name = f.1 ∧ r.resolve a.capability a.qualifier = .error f.2 := by
  rw [plan_eq] at h
  split at h
  · cases h
  · cases h
    obtain ⟨a, ha, hfailure⟩ := List.mem_filterMap.1 hf
    obtain ⟨hresolve, hname⟩ := failure?_eq_some_iff.1 hfailure
    exact ⟨a, ha, hname, hresolve⟩

end Registry

end Wiring
