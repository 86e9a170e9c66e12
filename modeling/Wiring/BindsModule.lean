import Wiring.Registry
import Wiring.Text.LowerCase

/-!
  The module of binds methods.

  Every binding of a registry has one method, which takes the implementation and returns it as the
  capability.  A method is named for the implementation alone, so an implementation that is bound
  twice, or two whose names differ in punctuation only, are in conflict.
-/

namespace Wiring
open Text

/-- A binds method. -/
structure BindsMethod where
  name : String
  parameter : String
  binding : Binding
  deriving DecidableEq

/-- The methods of a registry, in the order of its bindings. -/
structure BindsModule where
  methods : List BindsMethod
  deriving DecidableEq

/-- A character of a method name; what no such name can hold becomes an underscore. -/
def methodChar (c : Char) : Char := if isLetter c || isNumeral c || c == '_' then c else '_'

/-- A name as a part of a method name. -/
def methodPart (name : String) : String := name.map methodChar

/-- A text with a small first letter. -/
def lowerFirst (s : String) : String :=
  match s.toList with
  | [] => ""
  | c :: rest => String.ofList (lowerCase c ++ rest)

namespace BindsMethod

/-- The method of a binding. -/
def ofBinding (b : Binding) : BindsMethod where
  name := "binds_" ++ methodPart b.implementation.text
  parameter := lowerFirst (methodPart b.implementation.text)
  binding := b

/-- The method with the types of its parameter and its result. -/
def write (m : BindsMethod) : String :=
  m.name ++ "(" ++ m.parameter ++ ": " ++ m.binding.implementation.text ++ ") -> " ++
    m.binding.capability.text ++ Qualifier.suffix m.binding.qualifier

instance : ToString BindsMethod := ⟨write⟩

end BindsMethod

namespace BindsModule

/-- The name of every such module. -/
def name : String := "Generated_BindsModule"

/-- The module, with a line for every method. -/
def write (m : BindsModule) : String :=
  "module " ++ name ++ " \x7b\n" ++
    String.join (m.methods.map fun method => "    " ++ method.write ++ "\n") ++ "\x7d"

instance : ToString BindsModule := ⟨write⟩

end BindsModule

/-! ## Listing the methods -/

/-- The methods listed so far, and their places by name. -/
structure MethodTable where
  methods : List BindsMethod
  places : Std.ExtTreeMap String Nat
  /-- A name is entered with the place of the method that has it, so names do not repeat. -/
  places_eq_some_iff : ∀ name place,
    places[name]? = some place ↔ methods[place]?.map BindsMethod.name = some name

namespace MethodTable

/-- The table without methods. -/
def empty : MethodTable := ⟨[], ∅, by simp⟩

theorem lt_length (t : MethodTable) {name : String} {place : Nat}
    (h : t.places[name]? = some place) : place < t.methods.length := by
  have hname := (t.places_eq_some_iff name place).1 h
  obtain ⟨method, hmethod, -⟩ := Option.map_eq_some_iff.1 hname
  exact (List.getElem?_eq_some_iff.1 hmethod).1

/-- Of the names with a new one after them, the last place has the new one. -/
theorem name_concat_eq_some_iff (methods : List BindsMethod) (method : BindsMethod)
    (name : String) (place : Nat) :
    (methods ++ [method])[place]?.map BindsMethod.name = some name ↔
      methods[place]?.map BindsMethod.name = some name ∨
        place = methods.length ∧ method.name = name := by
  rcases Nat.lt_trichotomy place methods.length with hlt | rfl | hgt
  · rw [List.getElem?_append_left hlt]
    simp [Nat.ne_of_lt hlt]
  · simp
  · have hbeyond : (methods ++ [method])[place]? = none :=
      List.getElem?_eq_none (by simp; omega)
    rw [hbeyond, List.getElem?_eq_none (Nat.le_of_lt hgt)]
    simp [Nat.ne_of_gt hgt]

/-- Puts a method with a new name after the others. -/
def add (t : MethodTable) (method : BindsMethod) (hnew : t.places[method.name]? = none) :
    MethodTable where
  methods := t.methods ++ [method]
  places := t.places.insert method.name t.methods.length
  places_eq_some_iff := by
    intro name place
    have hold := t.places_eq_some_iff name place
    rw [Std.ExtTreeMap.getElem?_insert, name_concat_eq_some_iff, ← hold]
    by_cases hname : method.name = name
    · subst hname
      simp [hnew, eq_comm]
    · simp [hname]

end MethodTable

namespace BindsModule

/-- Puts the methods of bindings after those listed so far, up to the first conflict of names. -/
def extend (t : MethodTable) : List Binding → Logged (Except BindError BindsModule)
  | [] => ⟨.ok ⟨t.methods⟩, []⟩
  | b :: rest =>
    let method := BindsMethod.ofBinding b
    match hplace : t.places[method.name]? with
    | some place =>
      let earlier := t.methods.get ⟨place, t.lt_length hplace⟩
      let e := BindError.conflictingMethod method.name earlier.binding b
      ⟨.error e, [.methodsRejected e]⟩
    | none =>
      let later := extend (t.add method hplace) rest
      { later with events := .methodAdded b.implementation method.name :: later.events }

end BindsModule

namespace Registry

/-- Lists the binds methods of a registry and reports it. -/
def bindsModuleLogged (r : Registry) : Logged (Except BindError BindsModule) :=
  BindsModule.extend .empty r.bindings

/-- The binds methods of a registry, if no two have one name. -/
def bindsModule (r : Registry) : Except BindError BindsModule := r.bindsModuleLogged.value

end Registry

end Wiring
