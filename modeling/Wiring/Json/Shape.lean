import Wiring.Json.Number
import Wiring.Qualifier.Expression
import Wiring.Text.Quoted
import Std.Data.ExtTreeMap

/-!
  Values of the data format, and reading values of an expected shape.

  `Json.asString` and its companions read simple values.  A `RecordShape` describes a value with
  named fields: it is read from an object, or from an array of the field values in the order of
  declaration.  The members of an object are taken as they are listed, the first problem wins, and
  fields that are missing are looked for last.
-/

namespace Wiring
open Text

/-! ## Values

Whole numbers are kept apart from fractions, because a message about a value tells them apart.
The members of an object are listed by name.
-/

/-- A value. -/
inductive Json
  | null
  | bool (value : Bool)
  | integer (value : Int)
  | fraction (value : Fraction)
  | string (value : String)
  | array (elements : List Json)
  | object (members : List (String × Json))

namespace Json

/-- The object with the given members, sorted by name; of two with one name the later counts. -/
def ofMembers (members : List (String × Json)) : Json :=
  .object (Std.ExtTreeMap.ofList members).toList

/-- The number that a numeral stands for, if it is not out of range. -/
def ofNumeral (n : Numeral) : Option Json :=
  match n.integer? with
  | some value => some (.integer value)
  | none => n.fraction?.map .fraction

/-- The value of the first member of a name. -/
def member? (j : Json) (name : String) : Option Json :=
  match j with
  | .object members => members.lookup name
  | _ => none

/-- A value in the words of a message. -/
def describe : Json → String
  | .null => "null"
  | .bool value => "boolean `" ++ toString value ++ "`"
  | .integer value => "integer `" ++ toString value ++ "`"
  | .fraction value => "floating point `" ++ value.write ++ "`"
  | .string value => "string " ++ quoted value
  | .array _ => "sequence"
  | .object _ => "map"

end Json

/-! ## Shapes -/

/-- What a value was expected to be. -/
inductive Wanted
  | boolean
  | string
  | sequence
  | record (name : String)
  deriving DecidableEq, Repr

/-- The words for what was expected. -/
def Wanted.describe : Wanted → String
  | .boolean => "a boolean"
  | .string => "a string"
  | .sequence => "a sequence"
  | .record name => "struct " ++ name

/-- Why a value does not have the expected shape. -/
inductive ShapeError
  /-- It is a value of another kind. -/
  | wrongKind (found : Json) (wanted : Wanted)
  /-- It has a member that is no field. -/
  | unknownField (name : String) (known : List String)
  /-- It lacks a field. -/
  | missingField (name : String)
  /-- It is an array that lacks a field. -/
  | tooFew (count : Nat) (record : String) (fields : Nat)
  /-- It is an array with more elements than fields. -/
  | tooMany (count : Nat)
  /-- It is a text that denotes no qualifier. -/
  | invalidQualifier (error : ExpressionError)

namespace ShapeError

/-- A name between backquotes. -/
def ticked (name : String) : String := "`" ++ name ++ "`"

/-- The text of a shape error. -/
def message : ShapeError → String
  | .wrongKind found wanted =>
    "invalid type: " ++ found.describe ++ ", expected " ++ wanted.describe
  | .unknownField name known =>
    "unknown field " ++ ticked name ++ ", expected " ++ " or ".intercalate (known.map ticked)
  | .missingField name => "missing field " ++ ticked name
  | .tooFew count record fields =>
    "invalid length " ++ toString count ++ ", expected struct " ++ record ++ " with " ++
      toString fields ++ " elements"
  | .tooMany count =>
    "invalid length " ++ toString count ++ ", expected fewer elements in array"
  | .invalidQualifier error => error.message

end ShapeError

/-- A value of some type, or the reason why there is none. -/
abbrev Shaped := Except ShapeError

namespace Json

/-- Reads a truth value. -/
def asBool : Json → Shaped Bool
  | .bool value => .ok value
  | j => .error (.wrongKind j .boolean)

/-- Reads a text. -/
def asString : Json → Shaped String
  | .string value => .ok value
  | j => .error (.wrongKind j .string)

/-- Reads a list, each element in the same way. -/
def asList {α : Type} (read : Json → Shaped α) : Json → Shaped (List α)
  | .array elements => elements.mapM read
  | j => .error (.wrongKind j .sequence)

/-- Reads a value that may be null. -/
def asOption {α : Type} (read : Json → Shaped α) : Json → Shaped (Option α)
  | .null => .ok none
  | j => (read j).map some

end Json

/-- A record that is read field by field into a draft. -/
structure RecordShape (σ : Type) where
  name : String
  /-- The fields in the order of declaration, each with what its value adds to a draft. -/
  fields : List (String × (σ → Json → Shaped σ))
  /-- How many of the fields an array has to give. -/
  required : Nat
  /-- Whether members that are no fields are passed over. -/
  ignoresOthers : Bool

namespace RecordShape

/-- Reads a member of an object. -/
def readMember {σ : Type} (shape : RecordShape σ) (draft : σ) (m : String × Json) : Shaped σ :=
  match shape.fields.lookup m.1 with
  | some read => read draft m.2
  | none =>
    if shape.ignoresOthers then .ok draft
    else .error (.unknownField m.1 (shape.fields.map (·.1)))

/-- Reads an element of an array, which stands for a field. -/
def readElement {σ : Type} (draft : σ) (e : (String × (σ → Json → Shaped σ)) × Json) : Shaped σ :=
  e.1.2 draft e.2

/-- Reads the elements of an array as the fields. -/
def readElements {σ : Type} (shape : RecordShape σ) (draft : σ) (elements : List Json) :
    Shaped σ := do
  let draft ← (shape.fields.zip elements).foldlM readElement draft
  if elements.length < shape.required then
    .error (.tooFew elements.length shape.name shape.fields.length)
  else if shape.fields.length < elements.length then .error (.tooMany elements.length)
  else .ok draft

/-- Reads a record. -/
def read {σ : Type} (shape : RecordShape σ) (draft : σ) : Json → Shaped σ
  | .object members => members.foldlM shape.readMember draft
  | .array elements => shape.readElements draft elements
  | j => .error (.wrongKind j (.record shape.name))

end RecordShape

end Wiring
