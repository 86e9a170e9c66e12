import Wiring.Session
import Wiring.Json.Shape

/-!
  Manifests: declarations as values of the data format.

  Checks, provisions and modules are read from values and written as values.  What a manifest
  declares as markers is kept as it is spelled there; a pass brings it into canonical spelling.
-/

namespace Wiring

/-! ## Names and qualifiers -/

/-- Reads the name of a type. -/
def TypeName.ofJson (j : Json) : Shaped TypeName := j.asString.map .ofString

/-- Writes the name of a type. -/
def TypeName.toJson (name : TypeName) : Json := .string name.text

/-- Reads a qualifier, which is given as an expression. -/
def Qualifier.ofJson (j : Json) : Shaped Qualifier :=
  j.asString.bind fun expression => (Qualifier.parse expression).mapError .invalidQualifier

/-- Writes a qualifier as an expression, and its absence as null. -/
def Qualifier.optionToJson : Option Qualifier → Json
  | none => .null
  | some q => .string q.write

/-- Writes a binding. -/
def Binding.toJson (b : Binding) : Json :=
  .object [("capability", b.capability.toJson), ("implementation", b.implementation.toJson),
    ("qualifier", Qualifier.optionToJson b.qualifier)]

/-! ## Checks -/

namespace Checks

/-- The fields of the checks. -/
def shape : RecordShape Checks where
  name := "RegistrarConfig"
  fields :=
    [("require_qualifiers", fun c j => j.asBool.map ({ c with requireQualifiers := · })),
      ("check_qualifier_markers", fun c j => j.asBool.map ({ c with declaredMarkersOnly := · }))]
  required := 0
  ignoresOthers := false

/-- Reads the checks; those not mentioned are off. -/
def ofJson (j : Json) : Shaped Checks := shape.read {} j

/-- Writes the checks. -/
def toJson (c : Checks) : Json :=
  .object [("check_qualifier_markers", .bool c.declaredMarkersOnly),
    ("require_qualifiers", .bool c.requireQualifiers)]

end Checks

/-! ## Provisions -/

/-- A provision of which some fields have been read. -/
structure ProvisionDraft where
  implementation : Option TypeName := none
  capability : Option TypeName := none
  expression : Option String := none
  supertypes : Option (List TypeName) := none
  deriving DecidableEq

/-- The provision, if nothing that it needs is missing. -/
def ProvisionDraft.finish (d : ProvisionDraft) : Shaped Provision :=
  match d.implementation, d.capability with
  | none, _ => .error (.missingField "implementation")
  | some _, none => .error (.missingField "capability")
  | some implementation, some capability =>
    .ok ⟨implementation, capability, d.expression, d.supertypes⟩

namespace Provision

/-- The fields of a provision. -/
def shape : RecordShape ProvisionDraft where
  name := "Provision"
  fields :=
    [("implementation", fun d j => (TypeName.ofJson j).map ({ d with implementation := some · })),
      ("capability", fun d j => (TypeName.ofJson j).map ({ d with capability := some · })),
      ("qualifier", fun d j => (j.asOption Json.asString).map ({ d with expression := · })),
      ("supertypes", fun d j =>
        (j.asOption (Json.asList TypeName.ofJson)).map ({ d with supertypes := · }))]
  required := 2
  ignoresOthers := true

/-- Reads a provision. -/
def ofJson (j : Json) : Shaped Provision := (shape.read {} j).bind ProvisionDraft.finish

/-- Writes a provision; what it does not declare is left out. -/
def toJson (p : Provision) : Json :=
  .object ([("capability", p.capability.toJson), ("implementation", p.implementation.toJson)] ++
    (p.expression.map fun e => ("qualifier", Json.string e)).toList ++
    (p.supertypes.map fun ts => ("supertypes", Json.array (ts.map TypeName.toJson))).toList)

end Provision

/-! ## Modules -/

namespace Module

/-- The fields of a module. -/
def shape : RecordShape Module where
  name := "Module"
  fields :=
    [("qualifiers", fun m j =>
        (j.asList Json.asString).map fun markers => { m with markers := .ofList markers }),
      ("provisions", fun m j => (j.asList Provision.ofJson).map ({ m with provisions := · }))]
  required := 0
  ignoresOthers := false

/-- Reads a module. -/
def ofJson (j : Json) : Shaped Module := shape.read {} j

/-- Writes a module. -/
def toJson (m : Module) : Json :=
  .object [("provisions", .array (m.provisions.map Provision.toJson)),
    ("qualifiers", .array (m.markers.toList.map .string))]

end Module

end Wiring
