import Wiring.Registry

/-!
  Components and their plans.

  A component lists accessors, each a request for a binding.  A plan gives every accessor its
  binding.  If some request has no answer there is no plan, and the error names every such accessor
  with its reason, in the order of the accessors.
-/

namespace Wiring
open Text

/-- A request of a component, under the name of a method. -/
structure Accessor where
  name : String
  capability : TypeName
  qualifier : Option Qualifier
  deriving DecidableEq

/-- The requests of a component. -/
structure Component where
  name : String
  accessors : List Accessor
  deriving DecidableEq

/-- The binding chosen for an accessor. -/
structure PlannedAccessor where
  accessor : Accessor
  binding : Binding
  deriving DecidableEq

/-- The bindings chosen for a component. -/
structure Plan where
  component : String
  accessors : List PlannedAccessor
  deriving DecidableEq

/-- The accessors of a component that have no binding, each with the reason. -/
structure PlanError where
  component : String
  errors : List (String × BindError)
  deriving DecidableEq

namespace PlannedAccessor

/-- The accessor as a line of its plan. -/
def write (a : PlannedAccessor) : String :=
  "    " ++ a.accessor.name ++ "(): " ++ a.accessor.capability.text ++
    Qualifier.suffix a.accessor.qualifier ++ " = new " ++ a.binding.implementation.text ++ "\n"

end PlannedAccessor

namespace Plan

/-- The plan, with a line for every accessor. -/
def write (p : Plan) : String :=
  "component " ++ p.component ++ " \x7b\n" ++ String.join (p.accessors.map (·.write)) ++ "\x7d"

instance : ToString Plan := ⟨write⟩

end Plan

namespace PlanError

/-- A failing accessor and its reason. -/
def reason (e : String × BindError) : String := e.1 ++ "(): " ++ e.2.message

/-- The message about all failing accessors. -/
def message (e : PlanError) : String :=
  "component " ++ e.component ++ " has " ++ toString e.errors.length ++
    " unresolvable accessor(s): " ++ joinedBy "; " (e.errors.map reason)

end PlanError

/-! ## Planning -/

/-- What is known after some accessors: the bindings chosen, the accessors without one, and what
has been reported. -/
structure Survey where
  planned : List PlannedAccessor := []
  errors : List (String × BindError) := []
  events : List Event := []
  deriving DecidableEq

namespace Registry

/-- Asks for the binding of one more accessor. -/
def visit (r : Registry) (component : String) (s : Survey) (a : Accessor) : Survey :=
  let answer := r.resolveLogged a.capability a.qualifier
  match answer.value with
  | .ok b => { s with planned := s.planned ++ [⟨a, b⟩], events := s.events ++ answer.events }
  | .error e =>
    let complaint := Event.accessorUnresolved component a.name a.qualifier e
    { s with
      errors := s.errors ++ [(a.name, e)]
      events := s.events ++ (answer.events ++ [complaint]) }

/-- Asks for the bindings of all accessors, whether some are missing or not. -/
def survey (r : Registry) (c : Component) : Survey := c.accessors.foldl (r.visit c.name) {}

/-- Plans a component and reports it. -/
def planLogged (r : Registry) (c : Component) : Logged (Except PlanError Plan) :=
  let s := r.survey c
  ⟨if s.errors.isEmpty then .ok ⟨c.name, s.planned⟩ else .error ⟨c.name, s.errors⟩, s.events⟩

/-- The plan of a component, if every accessor has a binding. -/
def plan (r : Registry) (c : Component) : Except PlanError Plan := (r.planLogged c).value

end Registry

end Wiring
