import Wiring.Qualifier.Expression

/-!
  Bindings, and what is reported about them.

  A binding says which implementation a capability gets under a qualifier.  Every cause of failure
  is a constructor of `BindError` with what the message names, and `BindError.message` has the
  wording.  An `Event` is one report of a pass about itself, with its severity, its text and the
  fields that a log shows with it.  A `Logged` value is the result of a step together with the
  events of that step, in order.
-/

namespace Wiring.Text

/-- The row so far, with one more text.  A row that is still empty gets no separator. -/
def joinOne (separator joined item : String) : String :=
  if joined = "" then item else joined ++ separator ++ item

/-- The texts in a row. -/
def joinedBy (separator : String) (items : List String) : String :=
  items.foldl (joinOne separator) ""

end Wiring.Text

namespace Wiring
open Text

/-! ## Bindings -/

/-- An implementation bound to a capability, under a qualifier or without one. -/
structure Binding where
  capability : TypeName
  qualifier : Option Qualifier
  implementation : TypeName
  deriving DecidableEq

namespace Binding

/-- The binding as text: capability, qualifier if there is one, and implementation. -/
def write (b : Binding) : String :=
  b.capability.text ++ Qualifier.suffix b.qualifier ++ " -> " ++ b.implementation.text

instance : ToString Binding := ⟨write⟩

end Binding

/-! ## Mistakes -/

/-- A static mistake that ends a pass. -/
inductive BindError
  /-- Two implementations for one capability and qualifier. -/
  | boundTwice (capability : TypeName) (qualifier : Option Qualifier)
      (existing duplicate : TypeName)
  /-- A request that no binding answers. -/
  | unresolved (capability : TypeName) (qualifier : Option Qualifier)
      (known : List (Option Qualifier))
  /-- A request that several bindings answer. -/
  | ambiguous (capability : TypeName) (qualifier : Option Qualifier) (candidates : List TypeName)
  /-- An implementation bound to a capability that is none of its declared supertypes. -/
  | notAnImplementer (implementation capability : TypeName)
  /-- A declared marker used as a capability. -/
  | capabilityIsMarker (implementation capability : TypeName)
  /-- A marker that was never declared. -/
  | unknownMarker (implementation : TypeName) (marker : String)
  /-- A binding without qualifier of a capability that has others. -/
  | missingQualifier (capability implementation : TypeName)
  /-- Two bindings whose methods have one name. -/
  | conflictingMethod (method : String) (existing duplicate : Binding)
  /-- A qualifier expression that denotes nothing. -/
  | invalidQualifier (error : ExpressionError)
  deriving DecidableEq

namespace BindError

/-- What went wrong, without the words that every message begins with. -/
def detail : BindError → String
  | .boundTwice capability qualifier existing duplicate =>
    capability.text ++ " " ++ Qualifier.describe qualifier ++ " is bound more than once (to " ++
      existing.text ++ " and to " ++ duplicate.text ++ ")"
  | .unresolved capability qualifier known =>
    capability.text ++ " " ++ Qualifier.describe qualifier ++
      " has no binding (known qualifiers: [" ++ joinedBy ", " (known.map Qualifier.describe) ++
      "])"
  | .ambiguous capability qualifier candidates =>
    capability.text ++ " " ++ Qualifier.describe qualifier ++ " matches several bindings [" ++
      joinedBy ", " (candidates.map TypeName.text) ++ "] (the registry is inconsistent)"
  | .notAnImplementer implementation capability =>
    implementation.text ++ " doesn't implement the " ++ capability.text ++
      " capability it is bound to"
  | .capabilityIsMarker implementation capability =>
    implementation.text ++ " binds to " ++ capability.text ++
      ", which is a qualifier and cannot be a capability"
  | .unknownMarker implementation marker =>
    implementation.text ++ " is qualified by " ++ marker ++ ", which is not a declared qualifier"
  | .missingQualifier capability implementation =>
    capability.text ++ " implemented by " ++ implementation.text ++
      " has several implementations, but its binding has no qualifier"
  | .conflictingMethod method existing duplicate =>
    "binds method " ++ method ++ " is generated for both " ++ existing.write ++ " and " ++
      duplicate.write
  | .invalidQualifier error => error.message

/-- The message of a mistake. -/
def message (e : BindError) : String := "binding generation failed: " ++ e.detail

/-- The expression error behind a mistake, if there is one. -/
def source? : BindError → Option ExpressionError
  | .invalidQualifier error => some error
  | _ => none

end BindError

/-! ## Events -/

/-- How important an event is. -/
inductive Severity
  | trace
  | debug
  | warning
  | error
  deriving DecidableEq, Repr

/-- The value of a field: a text, or a number of things. -/
inductive FieldValue
  | text (value : String)
  | count (value : Nat)
  deriving DecidableEq, Repr

/-- One report. -/
inductive Event
  /-- A binding was accepted. -/
  | registered (binding : Binding)
  /-- A binding was refused. -/
  | bindingRejected (error : BindError)
  /-- A provision was refused before its binding was tried. -/
  | provisionRejected (error : BindError)
  /-- A registry was built. -/
  | built (capabilities bindings : Nat)
  /-- The checks refused a registry. -/
  | registryRejected (error : BindError)
  /-- A request is looked up. -/
  | resolving (capability : TypeName) (qualifier : Option Qualifier)
  /-- A request has several answers. -/
  | ambiguous (capability : TypeName) (qualifier : Option Qualifier) (candidates : Nat)
  /-- A request of a component has no answer. -/
  | accessorUnresolved (component accessor : String) (qualifier : Option Qualifier)
      (error : BindError)
  /-- A binds method was listed. -/
  | methodAdded (implementation : TypeName) (method : String)
  /-- Two binds methods have one name. -/
  | methodsRejected (error : BindError)
  deriving DecidableEq

namespace Event

/-- The severity of an event. -/
def severity : Event → Severity
  | .registered _ => .debug
  | .bindingRejected _ => .warning
  | .provisionRejected _ => .warning
  | .built _ _ => .debug
  | .registryRejected _ => .warning
  | .resolving _ _ => .trace
  | .ambiguous _ _ _ => .error
  | .accessorUnresolved _ _ _ _ => .warning
  | .methodAdded _ _ => .debug
  | .methodsRejected _ => .warning

/-- The text of an event. -/
def message : Event → String
  | .registered _ => "registered binding"
  | .bindingRejected _ => "rejected binding"
  | .provisionRejected _ => "rejected provision"
  | .built _ _ => "built registry"
  | .registryRejected _ => "registry rejected"
  | .resolving _ _ => "resolving binding"
  | .ambiguous _ _ _ => "registry holds several bindings for one key"
  | .accessorUnresolved _ _ _ _ => "accessor cannot be resolved"
  | .methodAdded _ _ => "added to the binds module"
  | .methodsRejected _ => "binds module rejected"

/-- The field with the message of an error. -/
def errorField (e : BindError) : String × FieldValue := ("error", .text e.message)

/-- The field with a capability. -/
def capabilityField (c : TypeName) : String × FieldValue := ("capability", .text c.text)

/-- The field with a qualifier, or with the word for its absence. -/
def qualifierField (q : Option Qualifier) : String × FieldValue :=
  ("qualifier", .text (Qualifier.describe q))

/-- The named fields of an event, in the order in which they are shown. -/
def fields : Event → List (String × FieldValue)
  | .registered b =>
    [capabilityField b.capability, qualifierField b.qualifier,
      ("implementation", .text b.implementation.text)]
  | .bindingRejected e => [errorField e]
  | .provisionRejected e => [errorField e]
  | .built capabilities bindings =>
    [("capabilities", .count capabilities), ("bindings", .count bindings)]
  | .registryRejected e => [errorField e]
  | .resolving c q => [capabilityField c, qualifierField q]
  | .ambiguous c q candidates =>
    [capabilityField c, qualifierField q, ("candidates", .count candidates)]
  | .accessorUnresolved component accessor q e =>
    [("component", .text component), ("accessor", .text accessor), qualifierField q, errorField e]
  | .methodAdded implementation method =>
    [("implementation", .text implementation.text), ("method", .text method)]
  | .methodsRejected e => [errorField e]

end Event

/-- A value and the events that led to it. -/
structure Logged (α : Type) where
  value : α
  events : List Event
  deriving DecidableEq

end Wiring
