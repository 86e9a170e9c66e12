import Wiring.Text.CharClass

/-!
  Names of types.

  A type can be written in several ways that mean the same: with blanks around the whole name, and
  with blanks around the segments of a dotted path.  `canonicalSpelling` chooses one of them, and a
  `TypeName` is a name in that spelling.  A text that is no dotted path of identifiers is a
  free-form name, of which only the blanks at the ends are dropped.

  Main statement: `canonicalSpelling_canonicalSpelling`, the chosen spelling is kept.
-/

namespace Wiring.Text

/-! ## Trimming

`trim` works on characters, `trimmed` on strings.  The results are exactly the texts that neither
start nor end with a blank, so trimming a second time changes nothing.
-/

/-- The characters from the first to the last that is no blank. -/
def trim (cs : List Char) : List Char :=
  ((cs.dropWhile isBlank).reverse.dropWhile isBlank).reverse

/-- The string without the blanks at its two ends. -/
def trimmed (s : String) : String := String.ofList (trim s.toList)

/-- Whether a text neither starts nor ends with a blank. -/
def IsTrimmed (cs : List Char) : Prop :=
  (∀ c ∈ cs.head?, isBlank c = false) ∧ (∀ c ∈ cs.getLast?, isBlank c = false)

theorem dropWhile_eq_self {α : Type} {p : α → Bool} {l : List α}
    (h : ∀ a ∈ l.head?, p a = false) : l.dropWhile p = l := by
  cases l with
  | nil => rfl
  | cons a l => simp [h a rfl]

theorem eq_false_of_mem_head?_dropWhile {α : Type} {p : α → Bool} {l : List α} :
    ∀ a ∈ (l.dropWhile p).head?, p a = false := by
  intro a ha
  have h := List.head?_dropWhile_not p l
  rw [Option.mem_def.1 ha] at h
  exact h

theorem trim_eq_self {cs : List Char} (h : IsTrimmed cs) : trim cs = cs := by
  have hrev : ∀ c ∈ cs.reverse.head?, isBlank c = false := by
    rw [List.head?_reverse]
    exact h.2
  rw [trim, dropWhile_eq_self h.1, dropWhile_eq_self hrev, List.reverse_reverse]

/-- Dropping the trailing blanks leaves the start of what dropping the leading ones has left. -/
theorem trim_prefix_dropWhile (cs : List Char) : trim cs <+: cs.dropWhile isBlank := by
  rw [trim, ← List.reverse_suffix, List.reverse_reverse]
  exact List.dropWhile_suffix _

/-- The result neither starts nor ends with a blank. -/
theorem isTrimmed_trim (cs : List Char) : IsTrimmed (trim cs) := by
  constructor
  · intro c hc
    obtain ⟨rest, hrest⟩ := trim_prefix_dropWhile cs
    apply eq_false_of_mem_head?_dropWhile (l := cs) c
    rw [← hrest, List.head?_append, Option.mem_def.1 hc]
    rfl
  · intro c hc
    rw [trim, List.getLast?_reverse] at hc
    exact eq_false_of_mem_head?_dropWhile c hc

/-- Trimming a second time changes nothing. -/
theorem trim_trim (cs : List Char) : trim (trim cs) = trim cs := trim_eq_self (isTrimmed_trim cs)

theorem trim_eq_self_of_forall {cs : List Char} (h : ∀ c ∈ cs, isBlank c = false) :
    trim cs = cs :=
  trim_eq_self ⟨fun c hc => h c (List.mem_of_mem_head? hc),
    fun c hc => h c (List.mem_of_getLast? hc)⟩

@[simp] theorem toList_trimmed (s : String) : (trimmed s).toList = trim s.toList := by
  simp [trimmed]

end Wiring.Text

namespace Wiring
open Text

/-! ## Identifiers

An identifier starts with a letter, an underscore or a dollar sign and goes on with the same and
with numerals.  Neither a blank nor the dot between two segments can stand in one, so the segments
of a path can be told apart again.
-/

/-- Whether an identifier can start with a character. -/
def isIdentifierStart (c : Char) : Bool := isLetter c || c == '_' || c == '$'

/-- Whether an identifier can go on with a character. -/
def isIdentifierPart (c : Char) : Bool := isLetter c || isNumeral c || c == '_' || c == '$'

/-- Whether the characters form one identifier. -/
def isIdentifierList : List Char → Bool
  | [] => false
  | c :: rest => isIdentifierStart c && rest.all isIdentifierPart

/-- Whether the whole text, blanks included, is one identifier. -/
def isIdentifier (s : String) : Bool := isIdentifierList s.toList

theorem isIdentifierPart_of_start {c : Char} (h : isIdentifierStart c = true) :
    isIdentifierPart c = true := by
  simp only [isIdentifierStart, Bool.or_eq_true] at h
  rcases h with (h | h) | h <;> simp [isIdentifierPart, h]

/-- What goes on after the start of an identifier has to consist of its parts. -/
theorem isIdentifierList_append {cs : List Char} (hne : cs ≠ []) (more : List Char) :
    isIdentifierList (cs ++ more) = (isIdentifierList cs && more.all isIdentifierPart) := by
  cases cs with
  | nil => exact absurd rfl hne
  | cons first rest => simp [isIdentifierList, List.all_append, Bool.and_assoc]

theorem isIdentifierPart_of_mem {cs : List Char} (h : isIdentifierList cs = true) :
    ∀ c ∈ cs, isIdentifierPart c = true := by
  cases cs with
  | nil => simp
  | cons first rest =>
    simp only [isIdentifierList, Bool.and_eq_true, List.all_eq_true] at h
    intro c hc
    rcases List.mem_cons.1 hc with rfl | hc
    · exact isIdentifierPart_of_start h.1
    · exact h.2 c hc

/-- The code points of the blanks, one by one. -/
def blankPoints : List Nat := blankSpans.flatMap fun s => List.range' s.first (s.last + 1 - s.first)

theorem mem_blankPoints_of_isBlank {c : Char} (h : isBlank c = true) : c.toNat ∈ blankPoints := by
  obtain ⟨s, hs, hfirst, hlast⟩ := (covers_iff ascending_blankSpans _).1 h
  exact List.mem_flatMap.2 ⟨s, hs, List.mem_range'_1.2 ⟨hfirst, by omega⟩⟩

/-- No blank can stand in an identifier. -/
theorem isBlank_eq_false_of_part {c : Char} (h : isIdentifierPart c = true) :
    isBlank c = false := by
  apply Bool.eq_false_iff.2
  intro hblank
  have hpoint := mem_blankPoints_of_isBlank hblank
  have apart : ∀ n ∈ blankPoints, covers letterSpans n = false ∧ covers numeralSpans n = false ∧
      n ≠ '_'.toNat ∧ n ≠ '$'.toNat := by decide +kernel
  obtain ⟨hletter, hnumeral, hunderscore, hdollar⟩ := apart _ hpoint
  have : c ≠ '_' := fun hc => hunderscore (by rw [hc])
  have : c ≠ '$' := fun hc => hdollar (by rw [hc])
  simp_all [isIdentifierPart, isLetter, isNumeral]

theorem isBlank_eq_false_of_mem {cs : List Char} (h : isIdentifierList cs = true) :
    ∀ c ∈ cs, isBlank c = false :=
  fun c hc => isBlank_eq_false_of_part (isIdentifierPart_of_mem h c hc)

theorem dot_not_mem_of_isIdentifierList {cs : List Char} (h : isIdentifierList cs = true) :
    '.' ∉ cs := fun hdot => absurd (isIdentifierPart_of_mem h '.' hdot) (by decide)

/-! ## Canonical spelling -/

/-- The parts of a text between its dots, each without the blanks around it. -/
def dottedParts (cs : List Char) : List (List Char) := ((trim cs).splitOn '.').map trim

/-- Whether the parts are the segments of a dotted path: two or more identifiers. -/
def IsDottedPath (parts : List (List Char)) : Prop :=
  1 < parts.length ∧ ∀ part ∈ parts, isIdentifierList part = true

instance (parts : List (List Char)) : Decidable (IsDottedPath parts) :=
  inferInstanceAs (Decidable (_ ∧ _))

/-- The segments with a dot between any two. -/
def joinDotted (parts : List (List Char)) : List Char := ['.'].intercalate parts

/-- The canonical spelling of a name, on its characters. -/
def canonicalList (cs : List Char) : List Char :=
  if IsDottedPath (dottedParts cs) then joinDotted (dottedParts cs) else trim cs

/-- The canonical spelling of a name: no blanks at the ends, nor around the segments of a dotted
path. -/
def canonicalSpelling (name : String) : String := String.ofList (canonicalList name.toList)

@[simp] theorem toList_canonicalSpelling (name : String) :
    (canonicalSpelling name).toList = canonicalList name.toList := by
  simp [canonicalSpelling]

theorem mem_joinDotted {parts : List (List Char)} {c : Char} (h : c ∈ joinDotted parts) :
    c = '.' ∨ ∃ part ∈ parts, c ∈ part := by
  induction parts with
  | nil => simp [joinDotted] at h
  | cons part rest ih =>
    cases rest with
    | nil => exact .inr ⟨part, by simp, by simpa [joinDotted] using h⟩
    | cons next rest =>
      rw [joinDotted, List.intercalate_cons_of_ne_nil (by simp)] at h
      rcases List.mem_append.1 h with h | h
      · rcases List.mem_append.1 h with h | h
        · exact .inr ⟨part, by simp, h⟩
        · exact .inl (List.mem_singleton.1 h)
      · rcases ih h with h | ⟨p, hp, hc⟩
        · exact .inl h
        · exact .inr ⟨p, List.mem_cons_of_mem _ hp, hc⟩

theorem isBlank_eq_false_of_mem_joinDotted {parts : List (List Char)}
    (h : ∀ part ∈ parts, isIdentifierList part = true) :
    ∀ c ∈ joinDotted parts, isBlank c = false := by
  intro c hc
  rcases mem_joinDotted hc with rfl | ⟨part, hpart, hc⟩
  · decide
  · exact isBlank_eq_false_of_mem (h part hpart) c hc

/-- The joined form of a path of identifiers comes apart into the same segments. -/
theorem dottedParts_joinDotted {parts : List (List Char)} (hne : parts ≠ [])
    (h : ∀ part ∈ parts, isIdentifierList part = true) :
    dottedParts (joinDotted parts) = parts := by
  have hdot : ∀ part ∈ parts, '.' ∉ part := fun part hpart =>
    dot_not_mem_of_isIdentifierList (h part hpart)
  rw [dottedParts, trim_eq_self_of_forall (isBlank_eq_false_of_mem_joinDotted h), joinDotted,
    List.splitOn_intercalate _ hdot hne]
  refine (List.map_congr_left fun part hpart => ?_).trans (List.map_id parts)
  exact trim_eq_self_of_forall (isBlank_eq_false_of_mem (h part hpart))

/-- The parts of a text are not changed by trimming it first. -/
theorem dottedParts_trim (cs : List Char) : dottedParts (trim cs) = dottedParts cs := by
  rw [dottedParts, dottedParts, trim_trim]

theorem canonicalList_canonicalList (cs : List Char) :
    canonicalList (canonicalList cs) = canonicalList cs := by
  by_cases h : IsDottedPath (dottedParts cs)
  · have hne : dottedParts cs ≠ [] := fun hnil => by
      have := h.1
      simp [hnil] at this
    have hcanon : canonicalList cs = joinDotted (dottedParts cs) := if_pos h
    rw [hcanon, canonicalList, dottedParts_joinDotted hne h.2, if_pos h]
  · have hcanon : canonicalList cs = trim cs := if_neg h
    rw [hcanon, canonicalList, dottedParts_trim, if_neg h, trim_trim]

/-- The canonical spelling of a name is kept. -/
theorem canonicalSpelling_canonicalSpelling (name : String) :
    canonicalSpelling (canonicalSpelling name) = canonicalSpelling name := by
  rw [canonicalSpelling, toList_canonicalSpelling, canonicalList_canonicalList, canonicalSpelling]

/-- The name of a type, in canonical spelling. -/
structure TypeName where
  text : String
  canonical : canonicalSpelling text = text
  deriving DecidableEq

namespace TypeName

/-- The type that a text names. -/
def ofString (name : String) : TypeName :=
  ⟨canonicalSpelling name, canonicalSpelling_canonicalSpelling name⟩

instance : ToString TypeName := ⟨text⟩

instance : Inhabited TypeName := ⟨ofString ""⟩

theorem ext {a b : TypeName} (h : a.text = b.text) : a = b := by
  cases a
  cases b
  cases h
  rfl

/-- A name is read back from its text. -/
@[simp] theorem ofString_text (name : TypeName) : ofString name.text = name := ext name.canonical

/-- Names are ordered as their texts are, by code points. -/
instance : Ord TypeName := ⟨compareOn text⟩

instance : Std.TransOrd TypeName := inferInstanceAs (Std.TransCmp (compareOn text))

instance : Std.LawfulEqOrd TypeName where
  eq_of_compare {_ _} h := ext (Std.LawfulEqOrd.eq_of_compare h)

end TypeName

end Wiring
