import Mathlib
import Wiring.Qualifier.Expression

/-!
  The grammar of qualifier expressions, apart from the machine that reads them.

      expression := '@' path ( '(' argument? ')' )?  |  string
      argument   := ( 'value' '=' )? ( string | path )
      path       := identifier ( '.' identifier )*

  `Denotes` is this grammar on tokens, with the qualifier that an expression stands for.  It says
  what is a class and what a name by rules of its own, not by the functions that the machine uses.
  `Spaced` says that a text is made of tokens, with any blanks before, between and after them, and
  `Expresses` puts the two together.
-/

namespace Wiring
open Text

/-! ## Tokens -/

/-- A word of an expression. -/
inductive Token
  /-- One of the characters `@`, `.`, `(`, `)` and `=`. -/
  | mark (c : Char)
  | identifier (name : String)
  /-- A string, by what it stands for. -/
  | literal (text : String)

/-- The characters between the quotes of a string stand for a text: a backslash stands for nothing
and makes the next character stand for itself, and other characters but quotes stand for
themselves. -/
inductive Unescapes : List Char → List Char → Prop
  | nil : Unescapes [] []
  | plain {c : Char} {body text : List Char} (hquote : c ≠ '"') (hslash : c ≠ '\\')
      (h : Unescapes body text) : Unescapes (c :: body) (c :: text)
  | escaped {c : Char} {body text : List Char} (h : Unescapes body text) :
      Unescapes ('\\' :: c :: body) (c :: text)

/-- How a token can be written. -/
def Token.Written : Token → List Char → Prop
  | .mark c, w => w = [c]
  | .identifier name, w => w = name.toList ∧ isIdentifier name = true
  | .literal text, w => ∃ body, w = '"' :: (body ++ ['"']) ∧ Unescapes body text.toList

/-- A text of blanks only, or of nothing. -/
def Blanks (cs : List Char) : Prop := ∀ c ∈ cs, isBlank c = true

/-- A text is made of tokens, with any blanks before, between and after them. -/
inductive Spaced : List Token → List Char → Prop
  | nil {b : List Char} (hb : Blanks b) : Spaced [] b
  | cons {b w rest : List Char} {t : Token} {ts : List Token} (hb : Blanks b) (hw : t.Written w)
      (h : Spaced ts rest) : Spaced (t :: ts) (b ++ (w ++ rest))

/-! ## Expressions -/

/-- The tokens of a path: its segments with a dot between any two. -/
def pathTokens : List String → List Token
  | [] => []
  | [name] => [.identifier name]
  | name :: next :: rest => .identifier name :: .mark '.' :: pathTokens (next :: rest)

/-- The tokens of the key of an argument, if it is written. -/
def keyTokens (hasKey : Bool) : List Token :=
  if hasKey then [.identifier "value", .mark '='] else []

/-- The tokens of an argument without key, and the argument.  A path of several segments is a class
if the last one is `class`, and any other path is a constant. -/
inductive DenotesValue : List Token → Argument → Prop
  | literal (text : String) : DenotesValue [.literal text] (.text text)
  | classRef (segments : List String) (hne : segments ≠ []) :
      DenotesValue (pathTokens (segments ++ ["class"])) (.classRef (pathText segments))
  | constant (segments : List String) (hne : segments ≠ [])
      (hclass : ∀ init, init ≠ [] → segments ≠ init ++ ["class"]) :
      DenotesValue (pathTokens segments) (.constant (pathText segments))

/-- The tokens of an argument, with its key or without it. -/
inductive DenotesArgument : List Token → Argument → Prop
  | intro (hasKey : Bool) {ts : List Token} {a : Argument} (h : DenotesValue ts a) :
      DenotesArgument (keyTokens hasKey ++ ts) a

/-- A marker, what it is applied to, and the qualifier.  A name marker applied to a string is the
name, and any other marker keeps the string without the blanks at its ends. -/
inductive DenotesApplied (marker : String) : Argument → Qualifier → Prop
  | name (hname : marker ∈ nameMarkers) (text : String) :
      DenotesApplied marker (.text text) (.named (canonicalSpelling text))
  | text (hname : marker ∉ nameMarkers) (text : String) :
      DenotesApplied marker (.text text) (.marked marker (some (.text (trimmed text))))
  | classRef (name : String) :
      DenotesApplied marker (.classRef name) (.marked marker (some (.classRef name)))
  | constant (path : String) :
      DenotesApplied marker (.constant path) (.marked marker (some (.constant path)))

/-- The tokens of an expression that starts with `@` or a quote, and its qualifier. -/
inductive Denotes : List Token → Qualifier → Prop
  | literal (text : String) : Denotes [.literal text] (.named (canonicalSpelling text))
  | alone (segments : List String) (hne : segments ≠ []) :
      Denotes (.mark '@' :: pathTokens segments) (.marked (pathText segments) none)
  | empty (segments : List String) (hne : segments ≠ []) :
      Denotes (.mark '@' :: (pathTokens segments ++ [.mark '(', .mark ')']))
        (.marked (pathText segments) none)
  | applied (segments : List String) (hne : segments ≠ []) {ts : List Token} {a : Argument}
      {q : Qualifier} (h : DenotesArgument ts a) (hq : DenotesApplied (pathText segments) a q) :
      Denotes (.mark '@' :: (pathTokens segments ++ .mark '(' :: (ts ++ [.mark ')']))) q

/-- A text is an expression, by the grammar, for a qualifier. -/
def Expresses (expression : String) (q : Qualifier) : Prop :=
  ∃ ts, Denotes ts q ∧ Spaced ts expression.toList

/-! ## Blanks and tokens in a row -/

theorem blanks_nil : Blanks [] := by
  intro c hc
  cases hc

theorem blanks_append {b b' : List Char} (hb : Blanks b) (hb' : Blanks b') :
    Blanks (b ++ b') := by
  intro c hc
  rcases List.mem_append.1 hc with hc | hc
  · exact hb c hc
  · exact hb' c hc

theorem blanks_singleton {c : Char} (hc : isBlank c = true) : Blanks [c] := by
  intro d hd
  rw [List.mem_singleton.1 hd]
  exact hc

theorem dropWhile_blanks_append {b cs : List Char} {c : Char} (hb : Blanks b)
    (hc : isBlank c = false) : (b ++ c :: cs).dropWhile isBlank = c :: cs := by
  rw [List.dropWhile_append_of_pos hb, List.dropWhile_cons_of_neg (by simp [hc])]

/-- Blanks in front of a text belong to no token. -/
theorem Spaced.blanks_append {ts : List Token} {b cs : List Char} (hb : Blanks b)
    (h : Spaced ts cs) : Spaced ts (b ++ cs) := by
  cases h with
  | nil hb' => exact .nil (Wiring.blanks_append hb hb')
  | cons hb' hw h =>
    rw [← List.append_assoc]
    exact .cons (Wiring.blanks_append hb hb') hw h

theorem Spaced.append {ts us : List Token} {cs ds : List Char} (h : Spaced ts cs)
    (h' : Spaced us ds) : Spaced (ts ++ us) (cs ++ ds) := by
  induction h with
  | nil hb => exact h'.blanks_append hb
  | cons hb hw _ ih =>
    rw [List.append_assoc, List.append_assoc]
    exact .cons hb hw ih

theorem Spaced.concat_blank {ts : List Token} {cs : List Char} (h : Spaced ts cs) {c : Char}
    (hc : isBlank c = true) : Spaced ts (cs ++ [c]) := by
  have := h.append (.nil (blanks_singleton hc))
  rwa [List.append_nil] at this

theorem spaced_singleton {t : Token} {w : List Char} (hw : t.Written w) : Spaced [t] w := by
  have := Spaced.cons blanks_nil hw (.nil blanks_nil)
  rwa [List.nil_append, List.append_nil] at this

theorem Spaced.concat {ts : List Token} {cs w : List Char} (h : Spaced ts cs) {t : Token}
    (hw : t.Written w) : Spaced (ts ++ [t]) (cs ++ w) :=
  h.append (spaced_singleton hw)

theorem Spaced.concat_mark {ts : List Token} {cs : List Char} (h : Spaced ts cs) (c : Char) :
    Spaced (ts ++ [.mark c]) (cs ++ [c]) :=
  h.concat rfl

theorem Unescapes.append {body text body' text' : List Char} (h : Unescapes body text)
    (h' : Unescapes body' text') : Unescapes (body ++ body') (text ++ text') := by
  induction h with
  | nil => exact h'
  | plain hquote hslash _ ih => exact .plain hquote hslash ih
  | escaped _ ih => exact .escaped ih

/-- An expression starts with `@`, or it is one string. -/
theorem Denotes.opening {ts : List Token} {q : Qualifier} (h : Denotes ts q) :
    (∃ rest, ts = .mark '@' :: rest) ∨ ∃ text, ts = [.literal text] ∧ q = .ofName text := by
  cases h with
  | literal text => exact .inr ⟨text, rfl, rfl⟩
  | alone segments hne => exact .inl ⟨_, rfl⟩
  | empty segments hne => exact .inl ⟨_, rfl⟩
  | applied segments hne ha hq => exact .inl ⟨_, rfl⟩

/-- What an expression holds, blanks in front apart: an `@` and the other tokens, or one string and
blanks after it. -/
theorem Denotes.dropWhile {ts : List Token} {cs : List Char} {q : Qualifier} (h : Denotes ts q)
    (hcs : Spaced ts cs) :
    (∃ us rest, ts = .mark '@' :: us ∧ cs.dropWhile isBlank = '@' :: rest ∧ Spaced us rest) ∨
    ∃ text body b, q = .ofName text ∧ cs.dropWhile isBlank = '"' :: (body ++ ['"'] ++ b) ∧
      Unescapes body text.toList ∧ Blanks b := by
  rcases h.opening with ⟨us, rfl⟩ | ⟨text, rfl, rfl⟩
  · cases hcs with
    | @cons b w rest _ _ hb hw hus =>
      have hat : isBlank '@' = false := by decide
      rw [hw, List.singleton_append, dropWhile_blanks_append hb hat]
      exact .inl ⟨us, rest, rfl, rfl, hus⟩
  · cases hcs with
    | @cons b w rest _ _ hb hw hend =>
      obtain ⟨body, rfl, hbody⟩ := hw
      have hquote : isBlank '"' = false := by decide
      rw [List.cons_append, dropWhile_blanks_append hb hquote]
      cases hend with
      | nil hb' => exact .inr ⟨text, body, rest, rfl, rfl, hbody, hb'⟩

/-! ## The tokens of a path -/

/-- The tokens of a path of which another segment has to come. -/
def dottedTokens (segments : List String) : List Token :=
  segments.flatMap fun name => [.identifier name, .mark '.']

/-- The last segment of a path has no dot after it. -/
theorem pathTokens_concat (segments : List String) (name : String) :
    pathTokens (segments ++ [name]) = dottedTokens segments ++ [.identifier name] := by
  unfold dottedTokens
  induction segments with
  | nil => rfl
  | cons first rest ih =>
    cases rest with
    | nil => rfl
    | cons next rest =>
      simp only [List.cons_append, pathTokens, List.flatMap_cons, List.nil_append] at ih ⊢
      rw [ih]

/-- A dot after a path asks for another segment. -/
theorem dottedTokens_eq {segments : List String} (hne : segments ≠ []) :
    dottedTokens segments = pathTokens segments ++ [.mark '.'] := by
  rcases List.eq_nil_or_concat segments with rfl | ⟨init, name, rfl⟩
  · exact absurd rfl hne
  · rw [List.concat_eq_append, pathTokens_concat]
    simp [dottedTokens]

end Wiring
