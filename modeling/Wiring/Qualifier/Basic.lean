import Wiring.TypeName

/-!
  Qualifiers, which tell several implementations of one capability apart.

  A qualifier is a name key or a marker type, and a marker may be applied to one argument.  The
  constructors of the types take any text.  `Qualifier.ofName` and `Qualifier.ofMarker` bring names
  into their canonical spelling, and take a name marker applied to a text for that name.
-/

namespace Wiring
open Text

/-- What a marker is applied to. -/
inductive Argument
  /-- A class, by its name without the `.class` ending. -/
  | classRef (name : String)
  /-- A string. -/
  | text (value : String)
  /-- A constant, such as an entry of an enumeration. -/
  | constant (path : String)
  deriving DecidableEq, Repr

/-- What distinguishes one binding of a capability from the others. -/
inductive Qualifier
  /-- A name key. -/
  | named (key : String)
  /-- A marker type, applied to an argument or alone. -/
  | marked (marker : String) (argument : Option Argument)
  deriving DecidableEq, Repr

/-- The markers that stand for the built-in qualifier by name. -/
def nameMarkers : List String := ["Named", "javax.inject.Named", "jakarta.inject.Named"]

namespace Argument

/-- The text of an argument, whatever its kind. -/
def content : Argument → String
  | .classRef name => name
  | .text value => value
  | .constant path => path

/-- The argument in canonical spelling.  A string keeps its inner blanks. -/
def canonical : Argument → Argument
  | .classRef name => .classRef (canonicalSpelling name)
  | .text value => .text (trimmed value)
  | .constant path => .constant (canonicalSpelling path)

end Argument

namespace Qualifier

/-- The qualifier by a name. -/
def ofName (key : String) : Qualifier := .named (canonicalSpelling key)

/-- The qualifier by a marker.  A name marker applied to a string is that name. -/
def ofMarker (marker : String) (argument : Option Argument) : Qualifier :=
  match argument.map Argument.canonical with
  | some (.text key) =>
    if canonicalSpelling marker ∈ nameMarkers then ofName key
    else .marked (canonicalSpelling marker) (some (.text key))
  | argument => .marked (canonicalSpelling marker) argument

/-- The name key, or the marker. -/
def key : Qualifier → String
  | .named key => key
  | .marked marker _ => marker

/-- What the marker is applied to, if it is applied at all. -/
def argument? : Qualifier → Option Argument
  | .named _ => none
  | .marked _ argument => argument

/-- Whether the qualifier is a name. -/
def isNamed : Qualifier → Bool
  | .named _ => true
  | .marked _ _ => false

/-- Whether the qualifier is a name marker that lacks its key. -/
def isKeyless : Qualifier → Bool
  | .named _ => false
  | .marked marker argument => argument.isNone && nameMarkers.contains marker

end Qualifier

/-! ## Order

Names come before markers.  Names go by key and markers by marker, then by argument: none first,
then classes, strings and constants, each by text.  Texts are compared by code points.  Only equal
qualifiers tie, so sorted maps can be keyed by qualifiers.
-/

namespace Argument

/-- The place of an argument's kind in the order. -/
def rank : Argument → Nat
  | .classRef _ => 0
  | .text _ => 1
  | .constant _ => 2

/-- Kind and text make up an argument. -/
theorem ext {a b : Argument} (hrank : a.rank = b.rank) (hcontent : a.content = b.content) :
    a = b := by
  cases a <;> cases b <;> simp_all [rank, content]

instance : Ord Argument := ⟨compareLex (compareOn rank) (compareOn content)⟩

instance : Std.TransOrd Argument :=
  inferInstanceAs (Std.TransCmp (compareLex (compareOn rank) (compareOn content)))

instance : Std.LawfulEqOrd Argument where
  eq_of_compare {a b} h := by
    obtain ⟨hrank, hcontent⟩ := Ordering.then_eq_eq.1 h
    exact ext (Std.LawfulEqOrd.eq_of_compare hrank) (Std.LawfulEqOrd.eq_of_compare hcontent)

end Argument

namespace Qualifier

/-- The place of a qualifier's kind in the order. -/
def rank : Qualifier → Nat
  | .named _ => 0
  | .marked _ _ => 1

/-- Kind, key and argument make up a qualifier. -/
theorem ext {p q : Qualifier} (hrank : p.rank = q.rank) (hkey : p.key = q.key)
    (hargument : p.argument? = q.argument?) : p = q := by
  cases p <;> cases q <;> simp_all [rank, key, argument?]

instance : Ord Qualifier :=
  ⟨compareLex (compareOn rank) (compareLex (compareOn key) (compareOn argument?))⟩

instance : Std.TransOrd Qualifier := inferInstanceAs
  (Std.TransCmp (compareLex (compareOn rank) (compareLex (compareOn key) (compareOn argument?))))

instance : Std.LawfulEqOrd Qualifier where
  eq_of_compare {p q} h := by
    obtain ⟨hrank, h⟩ := Ordering.then_eq_eq.1 h
    obtain ⟨hkey, hargument⟩ := Ordering.then_eq_eq.1 h
    exact ext (Std.LawfulEqOrd.eq_of_compare hrank) (Std.LawfulEqOrd.eq_of_compare hkey)
      (Std.LawfulEqOrd.eq_of_compare hargument)

end Qualifier

/-! ## Written form

A name is written as the name marker applied to a string, a marker with an `@` before it and its
argument in parentheses after it.  Strings stand in double quotes, with a backslash before every
quote and backslash of the text.
-/

/-- A character of a string literal, with a backslash before it where it needs one. -/
def escaped (c : Char) : List Char := if c = '"' ∨ c = '\\' then ['\\', c] else [c]

/-- The characters of a string literal. -/
def literalList (cs : List Char) : List Char := '"' :: (cs.flatMap escaped ++ ['"'])

/-- A text as a string literal. -/
def literal (s : String) : String := String.ofList (literalList s.toList)

@[simp] theorem toList_literal (s : String) : (literal s).toList = literalList s.toList := by
  simp [literal]

namespace Argument

/-- The argument as it stands between the parentheses. -/
def write : Argument → String
  | .classRef name => name ++ ".class"
  | .text value => literal value
  | .constant path => path

instance : ToString Argument := ⟨write⟩

end Argument

namespace Qualifier

/-- The qualifier as an expression. -/
def write : Qualifier → String
  | .named key => "@Named(" ++ literal key ++ ")"
  | .marked marker none => "@" ++ marker
  | .marked marker (some argument) => "@" ++ marker ++ "(" ++ argument.write ++ ")"

instance : ToString Qualifier := ⟨write⟩

/-- The text for the lack of a qualifier. -/
def unqualifiedText : String := "<unqualified>"

/-- A qualifier, or a word for its absence, as messages show it. -/
def describe : Option Qualifier → String
  | none => unqualifiedText
  | some q => q.write

/-- A qualifier after a blank, and nothing where there is none. -/
def suffix : Option Qualifier → String
  | none => ""
  | some q => " " ++ q.write

end Qualifier

end Wiring
