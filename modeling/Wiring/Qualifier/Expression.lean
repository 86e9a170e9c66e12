import Wiring.Qualifier.Basic

/-!
  Qualifier expressions, the texts in which qualifiers are declared.

      expression := '@' path ( '(' argument? ')' )?  |  string  |  text
      argument   := ( 'value' '=' )? ( string | path )
      path       := identifier ( '.' identifier )*

  Blanks may stand between any two tokens.  A path argument that ends in `.class` is a class.
  A text that starts with neither `@` nor a quote is taken whole as a name.

  The grammar has no nesting, so it is read from left to right by a machine with finitely many
  kinds of state: `State.step` takes one character, `State.finish` the end of the text.  A fault is
  found at the first character with which no expression can go on, and its position is the number
  of bytes in front of that character.
-/

namespace Wiring
open Text

/-! ## Faults -/

/-- What an expression lacks, or has too much, at some place. -/
inductive Fault
  /-- A path has to start. -/
  | noIdentifier
  /-- A path has to go on after a dot. -/
  | noSegment
  /-- The argument has to end. -/
  | noClosing
  /-- The expression has to end. -/
  | trailing
  /-- The text ends inside a string. -/
  | openLiteral
  /-- The text ends after a backslash. -/
  | openEscape
  deriving DecidableEq, Repr

/-- The words for a fault. -/
def Fault.reason : Fault → String
  | .noIdentifier => "expected an identifier"
  | .noSegment => "expected an identifier after `.`"
  | .noClosing => "expected `)`"
  | .trailing => "unexpected trailing input"
  | .openLiteral => "unterminated string literal"
  | .openEscape => "unterminated escape"

/-- Why a text is no qualifier expression. -/
inductive ExpressionError
  /-- It holds nothing but blanks. -/
  | empty
  /-- It has a fault after that many bytes. -/
  | malformed (expression : String) (position : Nat) (fault : Fault)
  deriving DecidableEq, Repr

/-- The text of an expression error. -/
def ExpressionError.message : ExpressionError → String
  | .empty => "qualifier expression is empty"
  | .malformed expression position fault =>
    "malformed qualifier expression `" ++ expression ++ "` at offset " ++ toString position ++
      ": " ++ fault.reason

/-! ## The machine -/

/-- Which path of an expression is being read. -/
inductive Place
  /-- The marker. -/
  | marker
  /-- The argument of a marker, after the key `value =` or without it. -/
  | argument (marker : String) (hasKey : Bool)
  deriving DecidableEq, Repr

/-- What has been read of an expression that starts with `@` or a quote. -/
inductive State
  /-- A path, of which another segment has to start. -/
  | atSegment (place : Place) (segments : List String)
  /-- A path, in the middle of a segment. -/
  | inSegment (place : Place) (segments : List String) (current : String)
  /-- A path, after a segment and at least one blank. -/
  | afterSegment (place : Place) (segments : List String)
  /-- A marker and the opening parenthesis. -/
  | opened (marker : String)
  /-- A marker, the opening parenthesis and the key `value =`. -/
  | keyed (marker : String)
  /-- A string, by itself or as the argument of a marker, and whether the last character was a
  backslash that escapes the next one. -/
  | inLiteral (marker : Option String) (text : String) (escaped : Bool)
  /-- A marker and its argument, without the closing parenthesis. -/
  | afterArgument (marker : String) (argument : Argument)
  /-- A whole qualifier. -/
  | complete (qualifier : Qualifier)
  deriving DecidableEq, Repr

/-- The text of a path. -/
def pathText (segments : List String) : String := ".".intercalate segments

/-- The argument that a path stands for: the class in front of the ending `.class` if it has that
ending, a constant otherwise. -/
def pathArgument (path : String) : Argument :=
  if ".class".toList <:+ path.toList then
    .classRef (String.ofList (path.toList.take (path.toList.length - ".class".toList.length)))
  else .constant path

namespace State

/-- Goes on after a segment of a path. -/
def stepAfterSegment (place : Place) (segments : List String) (c : Char) : Except Fault State :=
  if isBlank c then .ok (.afterSegment place segments)
  else if c = '.' then .ok (.atSegment place segments)
  else
    match place with
    | .marker => if c = '(' then .ok (.opened (pathText segments)) else .error .trailing
    | .argument marker hasKey =>
      if c = ')' then .ok (.complete (.ofMarker marker (some (pathArgument (pathText segments)))))
      else if c = '=' ∧ hasKey = false ∧ segments = ["value"] then .ok (.keyed marker)
      else .error .noClosing

/-- Starts the argument of a marker, apart from what ends it at once. -/
def stepArgument (marker : String) (hasKey : Bool) (c : Char) : Except Fault State :=
  if c = '"' then .ok (.inLiteral (some marker) "" false)
  else if isIdentifierStart c then
    .ok (.inSegment (.argument marker hasKey) [] (String.singleton c))
  else .error .noIdentifier

/-- What follows a string. -/
def afterLiteral (marker : Option String) (text : String) : State :=
  match marker with
  | none => .complete (.ofName text)
  | some marker => .afterArgument marker (.text text)

/-- Goes on with one character. -/
def step : State → Char → Except Fault State
  | .atSegment place segments, c =>
    if isBlank c then .ok (.atSegment place segments)
    else if isIdentifierStart c then .ok (.inSegment place segments (String.singleton c))
    else .error (if segments = [] then .noIdentifier else .noSegment)
  | .inSegment place segments current, c =>
    if isIdentifierPart c then .ok (.inSegment place segments (current.push c))
    else stepAfterSegment place (segments ++ [current]) c
  | .afterSegment place segments, c => stepAfterSegment place segments c
  | .opened marker, c =>
    if isBlank c then .ok (.opened marker)
    else if c = ')' then .ok (.complete (.ofMarker marker none))
    else stepArgument marker false c
  | .keyed marker, c =>
    if isBlank c then .ok (.keyed marker) else stepArgument marker true c
  | .inLiteral marker text true, c => .ok (.inLiteral marker (text.push c) false)
  | .inLiteral marker text false, c =>
    if c = '"' then .ok (afterLiteral marker text)
    else if c = '\\' then .ok (.inLiteral marker text true)
    else .ok (.inLiteral marker (text.push c) false)
  | .afterArgument marker argument, c =>
    if isBlank c then .ok (.afterArgument marker argument)
    else if c = ')' then .ok (.complete (.ofMarker marker (some argument)))
    else .error .noClosing
  | .complete qualifier, c => if isBlank c then .ok (.complete qualifier) else .error .trailing

/-- The qualifier that has been read when the text ends. -/
def finish : State → Except Fault Qualifier
  | .atSegment _ segments => .error (if segments = [] then .noIdentifier else .noSegment)
  | .inSegment .marker segments current =>
    .ok (.ofMarker (pathText (segments ++ [current])) none)
  | .afterSegment .marker segments => .ok (.ofMarker (pathText segments) none)
  | .inSegment (.argument _ _) _ _ => .error .noClosing
  | .afterSegment (.argument _ _) _ => .error .noClosing
  | .opened _ => .error .noIdentifier
  | .keyed _ => .error .noIdentifier
  | .inLiteral _ _ escaped => .error (if escaped then .openEscape else .openLiteral)
  | .afterArgument _ _ => .error .noClosing
  | .complete qualifier => .ok qualifier

/-- Reads the rest of an expression.  A fault comes with its position; `position` is that of the
first character of the rest. -/
def read (state : State) (position : Nat) : List Char → Except (Nat × Fault) Qualifier
  | [] => state.finish.mapError (position, ·)
  | c :: rest =>
    match state.step c with
    | .error fault => .error (position, fault)
    | .ok next => next.read (position + c.utf8Size) rest

end State

/-! ## Expressions -/

/-- The number of bytes of a text. -/
def byteCount : List Char → Nat
  | [] => 0
  | c :: rest => c.utf8Size + byteCount rest

/-- The number of bytes of the blanks that a text starts with. -/
def leadingBytes (expression : String) : Nat := byteCount (expression.toList.takeWhile isBlank)

/-- A fault as an error about the whole expression. -/
def ExpressionError.ofFault (expression : String) (found : Nat × Fault) : ExpressionError :=
  .malformed expression found.1 found.2

/-- The qualifier that an expression denotes. -/
def Qualifier.parse (expression : String) : Except ExpressionError Qualifier :=
  match expression.toList.dropWhile isBlank with
  | [] => .error .empty
  | '@' :: rest =>
    (State.read (.atSegment .marker []) (leadingBytes expression + 1) rest).mapError
      (.ofFault expression)
  | '"' :: rest =>
    (State.read (.inLiteral none "" false) (leadingBytes expression + 1) rest).mapError
      (.ofFault expression)
  | _ :: _ => .ok (.ofName expression)

end Wiring
