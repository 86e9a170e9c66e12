import Wiring.Report
import Wiring.Text.Quoted
import Std.Data.ExtTreeMap

/-!
  Registries, which answer requests with bindings, and their index.

  The index of bindings goes by capability and then by qualifier, both in order.  A pair of a
  capability and a qualifier, or none, is a slot.  The type allows a slot to hold any number of
  bindings; a pass never puts more than one into it.  A binding without qualifier has its slot
  before all others of its capability.

  A request names a capability and a qualifier or none, and only the binding of exactly that slot
  answers it: the lack of a qualifier is no wildcard.  All listings are sorted, so they depend on
  the bindings alone and not on the order in which they were declared.
-/

namespace Wiring
open Text

/-! ## The index -/

/-- The slots of one capability. -/
abbrev Slots := Std.ExtTreeMap (Option Qualifier) (List Binding)

/-- The slots of every capability. -/
abbrev Index := Std.ExtTreeMap TypeName Slots

/-- Whether two indices are equal can be decided. -/
instance : DecidableEq Index := inferInstance

namespace Slots

/-- The bindings of all slots, in order. -/
def bindings (s : Slots) : List Binding := s.toList.flatMap (·.2)

/-- The qualifiers of the slots that hold a binding, in order. -/
def boundQualifiers (s : Slots) : List (Option Qualifier) :=
  (s.toList.filter fun slot => !slot.2.isEmpty).map (·.1)

end Slots

namespace Index

/-- The slots of a capability, none if it is not in the index. -/
def slots (i : Index) (capability : TypeName) : Slots := i.getD capability ∅

/-- The bindings in a slot. -/
def slot (i : Index) (capability : TypeName) (qualifier : Option Qualifier) : List Binding :=
  (i.slots capability).getD qualifier []

/-- Sets what a slot holds. -/
def setSlot (i : Index) (capability : TypeName) (qualifier : Option Qualifier)
    (bindings : List Binding) : Index :=
  i.insert capability ((i.slots capability).insert qualifier bindings)

/-- Enters a slot: the capability and, under it, the qualifier get an empty entry if they have
none. -/
def enter (i : Index) (capability : TypeName) (qualifier : Option Qualifier) : Index :=
  i.insert capability ((i.slots capability).insertIfNew qualifier [])

/-- Puts a binding after those that its slot holds. -/
def add (i : Index) (b : Binding) : Index :=
  i.setSlot b.capability b.qualifier (i.slot b.capability b.qualifier ++ [b])

/-- All bindings, by capability and then by qualifier. -/
def bindings (i : Index) : List Binding := i.toList.flatMap fun entry => entry.2.bindings

/-- The capabilities with a binding, in order. -/
def boundCapabilities (i : Index) : List TypeName :=
  (i.toList.filter fun entry => !entry.2.bindings.isEmpty).map (·.1)

end Index

/-! ## Requests -/

/-- The bindings of a finished pass. -/
structure Registry where
  index : Index := ∅
  deriving DecidableEq

namespace Registry

/-- The bindings, by capability and then by qualifier. -/
def bindings (r : Registry) : List Binding := r.index.bindings

/-- The capabilities with a binding, in order. -/
def capabilities (r : Registry) : List TypeName := r.index.boundCapabilities

/-- The qualifiers under which a capability is bound, in order. -/
def qualifiers (r : Registry) (capability : TypeName) : List (Option Qualifier) :=
  (r.index.slots capability).boundQualifiers

/-- The number of bindings. -/
def size (r : Registry) : Nat := r.bindings.length

/-- Whether there is no binding. -/
def isEmpty (r : Registry) : Bool := r.bindings.isEmpty

/-- Answers a request and reports it. -/
def resolveLogged (r : Registry) (capability : TypeName) (qualifier : Option Qualifier) :
    Logged (Except BindError Binding) :=
  let asked := Event.resolving capability qualifier
  match r.index.slot capability qualifier with
  | [b] => ⟨.ok b, [asked]⟩
  | [] => ⟨.error (.unresolved capability qualifier (r.qualifiers capability)), [asked]⟩
  | candidates =>
    ⟨.error (.ambiguous capability qualifier (candidates.map Binding.implementation)),
      [asked, .ambiguous capability qualifier candidates.length]⟩

/-- The binding that answers a request. -/
def resolve (r : Registry) (capability : TypeName) (qualifier : Option Qualifier) :
    Except BindError Binding := (r.resolveLogged capability qualifier).value

/-- Answers a request whose qualifier is given as an expression, and reports it.  There is nothing
to report of an expression that denotes no qualifier. -/
def resolveWithLogged (r : Registry) (capability : TypeName) (expression : String) :
    Logged (Except BindError Binding) :=
  match Qualifier.parse expression with
  | .ok q => r.resolveLogged capability (some q)
  | .error e => ⟨.error (.invalidQualifier e), []⟩

/-- The binding that answers a request by an expression. -/
def resolveWith (r : Registry) (capability : TypeName) (expression : String) :
    Except BindError Binding := (r.resolveWithLogged capability expression).value

/-- A binding as an entry of the diagnostic listing. -/
def listingEntry (b : Binding) : String :=
  quoted (b.capability.text ++ " " ++ Qualifier.describe b.qualifier) ++ ": " ++
    quoted b.implementation.text

/-- The bindings between braces, for diagnosis. -/
def listing (r : Registry) : String :=
  "\x7b" ++ ", ".intercalate (r.bindings.map listingEntry) ++ "\x7d"

end Registry

end Wiring
