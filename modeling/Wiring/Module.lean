import Wiring.Report
import Std.Data.ExtTreeSet

/-!
  Provisions and modules: declarations before they are added to a pass.

  A provision declares that an implementation provides a capability.  It keeps its qualifier as the
  expression it was declared with.  `Provision.qualifier` checks the declaration and reads the
  expression; a name marker without a key stands for the name of the implementation itself.

  A module declares markers, which form a set, and provisions, which keep their order.  It does not
  check them; conflicts show when it is added to a pass.
-/

namespace Wiring

/-- The declaration that an implementation provides a capability. -/
structure Provision where
  implementation : TypeName
  capability : TypeName
  /-- The expression of the qualifier, as declared. -/
  expression : Option String := none
  /-- What the implementation is declared to implement, if that is declared. -/
  supertypes : Option (List TypeName) := none
  deriving DecidableEq

namespace Provision

/-- The unqualified provision of a capability by an implementation. -/
def ofNames (implementation capability : String) : Provision :=
  { implementation := .ofString implementation, capability := .ofString capability }

/-- The provision under the qualifier that an expression denotes. -/
def qualifiedBy (p : Provision) (expression : String) : Provision :=
  { p with expression := some expression }

/-- The provision by an implementation of the given supertypes. -/
def implementing (p : Provision) (supertypes : List String) : Provision :=
  { p with supertypes := some (supertypes.map .ofString) }

/-- Whether the implementation is not declared to implement anything, or the capability among
others. -/
def implementsCapability (p : Provision) : Bool :=
  match p.supertypes with
  | none => true
  | some supertypes => supertypes.contains p.capability

/-- A name marker without a key stands for the name of the implementation. -/
def resolveKeyless (p : Provision) (q : Qualifier) : Qualifier :=
  if q.isKeyless then .ofName p.implementation.text else q

/-- The qualifier under which the capability is provided, if the declaration is sound. -/
def qualifier (p : Provision) : Except BindError (Option Qualifier) :=
  if p.implementsCapability then
    match p.expression with
    | none => .ok none
    | some expression =>
      match Qualifier.parse expression with
      | .ok q => .ok (some (p.resolveKeyless q))
      | .error e => .error (.invalidQualifier e)
  else .error (.notAnImplementer p.implementation p.capability)

end Provision

/-! ## Modules -/

/-- Markers declared as qualifiers, in the order of their code points. -/
abbrev MarkerSet := Std.ExtTreeSet String

/-- A collection of declarations. -/
structure Module where
  markers : MarkerSet := ∅
  provisions : List Provision := []
  deriving DecidableEq

namespace Module

/-- Declares a marker type as a qualifier. -/
def declare (m : Module) (marker : String) : Module :=
  { m with markers := m.markers.insert (canonicalSpelling marker) }

/-- Adds a provision after the others. -/
def provide (m : Module) (p : Provision) : Module := { m with provisions := m.provisions ++ [p] }

end Module

end Wiring
