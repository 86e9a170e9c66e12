import Wiring.Proofs.Expression.Path
import Wiring.Proofs.MethodNames

/-!
  The names of the parameters of the binds methods.

  A parameter has the name of the implementation as its method has it, with a small first letter.
  The small form of a letter is one letter (`Text.exists_lowerCase_eq`), with one exception: the
  dotted capital I becomes an i and a combining dot, and the dot is no part of an identifier.  So
  for an implementation whose name is a path, the parameter is an identifier exactly if the name
  does not start with that letter (`isIdentifier_parameter_iff`).

  Main statements: `Registry.parameters_are_identifiers_but_one`, and
  `Registry.parameter_of_dottedCapitalI` for what does not hold.
-/

namespace Wiring

namespace Text

/-! ## Small letters are letters -/

/-- Whether the first span that does not end below a range holds all of the range. -/
def coversRange : List Span → Nat → Nat → Bool
  | [], _, _ => false
  | s :: rest, low, high =>
    if s.last < low then coversRange rest low high else s.first ≤ low && high ≤ s.last

theorem exists_span_of_coversRange {spans : List Span} {low high : Nat}
    (h : coversRange spans low high = true) : ∃ s ∈ spans, s.first ≤ low ∧ high ≤ s.last := by
  induction spans with
  | nil => cases h
  | cons s rest ih =>
    unfold coversRange at h
    by_cases hbelow : s.last < low
    · rw [if_pos hbelow] at h
      obtain ⟨t, ht, hrange⟩ := ih h
      exact ⟨t, List.mem_cons_of_mem _ ht, hrange⟩
    · rw [if_neg hbelow, Bool.and_eq_true, decide_eq_true_eq, decide_eq_true_eq] at h
      exact ⟨s, List.mem_cons_self, h⟩

theorem coversRange_capitalRuns : ∀ r ∈ capitalRuns,
    coversRange letterSpans (r.first + r.shift).toNat (r.last + r.shift).toNat = true := by
  decide +kernel

theorem smallLetter_cases (runs : List CapitalRun) (n : Nat) :
    smallLetter runs n = n ∨
      ∃ r ∈ runs, r.first ≤ n ∧ n ≤ r.last ∧ smallLetter runs n = (n + r.shift).toNat := by
  induction runs with
  | nil => exact .inl rfl
  | cons r rest ih =>
    unfold smallLetter
    by_cases hlow : n < r.first
    · rw [if_pos hlow]
      exact .inl rfl
    · rw [if_neg hlow]
      by_cases hrun : n ≤ r.last ∧ (n - r.first) % r.step = 0
      · rw [if_pos hrun]
        exact .inr ⟨r, List.mem_cons_self, Nat.le_of_not_lt hlow, hrun.1, rfl⟩
      · rw [if_neg hrun]
        rcases ih with hsame | ⟨t, ht, hmoved⟩
        · exact .inl hsame
        · exact .inr ⟨t, List.mem_cons_of_mem _ ht, hmoved⟩

theorem covers_smallLetter {n : Nat} (h : covers letterSpans n = true) :
    covers letterSpans (smallLetter capitalRuns n) = true := by
  rcases smallLetter_cases capitalRuns n with hsame | ⟨r, hr, hfirst, hlast, hmoved⟩
  · rw [hsame]
    exact h
  · obtain ⟨s, hs, hlow, hhigh⟩ := exists_span_of_coversRange (coversRange_capitalRuns r hr)
    rw [hmoved, covers_iff ascending_letterSpans]
    exact ⟨s, hs, by omega, by omega⟩

theorem toNat_ofNat_of_covers {n : Nat} (h : covers letterSpans n = true) :
    (Char.ofNat n).toNat = n := by
  have hspans : ∀ s ∈ letterSpans, s.last < 0xD800 ∨ 0xDFFF < s.first ∧ s.last < 0x110000 := by
    decide +kernel
  obtain ⟨s, hs, hfirst, hlast⟩ := (covers_iff ascending_letterSpans n).1 h
  have hvalid : n.isValidChar := by
    rcases hspans s hs with hlow | ⟨hhigh, hmax⟩
    · exact .inl (by omega)
    · exact .inr ⟨by omega, by omega⟩
  rw [Char.toNat_ofNat, if_pos hvalid]

/-- The small form of a letter is one letter, unless it is the dotted capital I. -/
theorem exists_lowerCase_eq {c : Char} (h : isLetter c = true) (hne : c ≠ dottedCapitalI) :
    ∃ d, lowerCase c = [d] ∧ isLetter d = true := by
  have hsmall := covers_smallLetter h
  refine ⟨_, if_neg hne, ?_⟩
  unfold isLetter
  rw [toNat_ofNat_of_covers hsmall]
  exact hsmall

end Text

open Text

/-! ## The first letter of a path -/

theorem IsPath.exists_start {s : String} (h : IsPath s) :
    ∃ first rest, s.toList = first :: rest ∧ isIdentifierStart first = true := by
  obtain ⟨segments, hne, hident, rfl⟩ := h
  obtain ⟨name, others, rfl⟩ := List.exists_cons_of_ne_nil hne
  have hname : isIdentifierList name.toList = true := hident name List.mem_cons_self
  cases hchars : name.toList with
  | nil =>
    rw [hchars] at hname
    cases hname
  | cons first rest =>
    rw [hchars, isIdentifierList, Bool.and_eq_true] at hname
    cases others with
    | nil => exact ⟨first, rest, by simp [pathText, hchars], hname.1⟩
    | cons next others =>
      refine ⟨first, rest ++ '.' :: (pathText (next :: others)).toList, ?_, hname.1⟩
      rw [pathText_cons_cons, String.toList_append, String.toList_append, hchars]
      simp

theorem methodChar_of_start {c : Char} (h : isIdentifierStart c = true) :
    isLetter (methodChar c) = true ∨ methodChar c = '_' := by
  unfold methodChar
  by_cases hletter : isLetter c = true
  · simp [hletter]
  · simp only [isIdentifierStart, hletter, Bool.false_or, Bool.or_eq_true, beq_iff_eq] at h
    rcases h with rfl | rfl
    · exact .inr rfl
    · exact .inr rfl

/-- The dotted capital I is kept in a method name, and nothing else becomes it. -/
theorem methodChar_eq_dottedCapitalI_iff {c : Char} :
    methodChar c = dottedCapitalI ↔ c = dottedCapitalI := by
  constructor
  · intro h
    unfold methodChar at h
    by_cases hkept : (isLetter c || isNumeral c || c == '_') = true
    · rwa [if_pos hkept] at h
    · rw [if_neg hkept] at h
      cases h
  · rintro rfl
    decide

/-! ## Parameters -/

/-- A text that starts with a letter or an underscore, and goes on with parts of an identifier, is
an identifier with a small first letter, unless that is the dotted capital I. -/
theorem isIdentifier_lowerFirst_iff {s : String} {first : Char} {rest : List Char}
    (hs : s.toList = first :: rest) (hfirst : isLetter first = true ∨ first = '_')
    (hrest : rest.all isIdentifierPart = true) :
    isIdentifier (lowerFirst s) = true ↔ first ≠ dottedCapitalI := by
  have hlower : (lowerFirst s).toList = lowerCase first ++ rest := by
    simp [lowerFirst, hs]
  unfold isIdentifier
  rw [hlower]
  by_cases hdotted : first = dottedCapitalI
  · subst hdotted
    have hform : lowerCase dottedCapitalI = ['i', '\u0307'] := if_pos rfl
    have hdot : isIdentifierList ['i', '\u0307'] = false := by decide
    rw [hform, isIdentifierList_append (by simp), hdot]
    simp
  · obtain ⟨d, hd, hstart⟩ : ∃ d, lowerCase first = [d] ∧ isIdentifierStart d = true := by
      rcases hfirst with hletter | rfl
      · obtain ⟨d, hd, hletter⟩ := exists_lowerCase_eq hletter hdotted
        exact ⟨d, hd, by simp [isIdentifierStart, hletter]⟩
      · exact ⟨'_', by decide, by decide⟩
    rw [hd]
    simp [isIdentifierList, hstart, hrest, hdotted]

/-- The parameter for an implementation whose name is a path is an identifier exactly if the name
does not start with the dotted capital I. -/
theorem isIdentifier_parameter_iff {b : Binding} (h : IsPath b.implementation.text) :
    isIdentifier (BindsMethod.ofBinding b).parameter = true ↔
      b.implementation.text.toList.head? ≠ some dottedCapitalI := by
  obtain ⟨first, rest, hs, hstart⟩ := h.exists_start
  have hpart : (methodPart b.implementation.text).toList =
      methodChar first :: rest.map methodChar := by
    rw [toList_methodPart, hs, List.map_cons]
  have hiff := isIdentifier_lowerFirst_iff hpart (methodChar_of_start hstart)
    (all_isIdentifierPart_methodChar rest)
  rw [hs, List.head?_cons, ne_eq, Option.some.injEq, ← methodChar_eq_dottedCapitalI_iff]
  exact hiff

namespace Registry

/-- **Parameters are identifiers, but for one first letter.**  In a module of binds methods, take a
method for an implementation whose name is one or more identifiers joined by dots.  Its parameter,
which is the name as the method has it with a small first letter, is an identifier exactly if the
name does not start with the dotted capital I. -/
theorem parameters_are_identifiers_but_one {r : Registry} {m : BindsModule}
    (hm : r.bindsModule = .ok m) : ∀ method ∈ m.methods,
      IsPath method.binding.implementation.text →
        method.parameter = lowerFirst (methodPart method.binding.implementation.text) ∧
          (isIdentifier method.parameter = true ↔
            method.binding.implementation.text.toList.head? ≠ some dottedCapitalI) := by
  intro method hmethod hpath
  rw [(nodup_and_methods_of_bindsModule hm).2] at hmethod
  obtain ⟨b, -, rfl⟩ := List.mem_map.1 hmethod
  exact ⟨rfl, isIdentifier_parameter_iff hpath⟩

/-- The binding of a door to an implementation whose first letter is a capital beyond ASCII. -/
def schoolDoor : Binding := ⟨.ofString "Door", none, .ofString "École"⟩

/-- The binding of a wall to an implementation whose first letter is the dotted capital I. -/
def dottedWall : Binding := ⟨.ofString "Wall", none, .ofString "\u0130mp"⟩

/-- Both bindings in a registry. -/
def schoolAndDotted : Registry := ⟨((∅ : Index).add schoolDoor).add dottedWall⟩

theorem bindsModule_schoolAndDotted :
    schoolAndDotted.bindsModule = .ok ⟨[.ofBinding schoolDoor, .ofBinding dottedWall]⟩ := by
  have hbindings : schoolAndDotted.bindings = [schoolDoor, dottedWall] := by decide +kernel
  have hnames : (schoolAndDotted.bindings.map Binding.methodName).Nodup := by
    rw [hbindings]
    decide +kernel
  rw [bindsModule_of_nodup hnames, hbindings]
  rfl

theorem isPath_of_isIdentifier {s : String} (h : isIdentifier s = true) : IsPath s := by
  refine ⟨[s], by simp, ?_, by simp [pathText]⟩
  intro name hname
  rw [List.mem_singleton.1 hname]
  exact h

theorem isPath_schoolDoor : IsPath schoolDoor.implementation.text :=
  isPath_of_isIdentifier (by decide +kernel)

theorem isPath_dottedWall : IsPath dottedWall.implementation.text :=
  isPath_of_isIdentifier (by decide +kernel)

/-- The parameter of the one is an identifier, that of the other is not. -/
theorem parameters_are_identifiers_but_one_school :
    isIdentifier (BindsMethod.ofBinding schoolDoor).parameter = true ∧
      isIdentifier (BindsMethod.ofBinding dottedWall).parameter = false := by
  have hall := parameters_are_identifiers_but_one bindsModule_schoolAndDotted
  obtain ⟨-, hschool⟩ := hall (.ofBinding schoolDoor) (by simp) isPath_schoolDoor
  obtain ⟨-, hdotted⟩ := hall (.ofBinding dottedWall) (by simp) isPath_dottedWall
  refine ⟨hschool.2 (by decide +kernel), ?_⟩
  rw [← Bool.not_eq_true, hdotted]
  decide +kernel

/-- It does not hold that the parameter for an implementation whose name is a path is always an
identifier: the dotted capital I becomes an i and a combining dot. -/
theorem parameter_of_dottedCapitalI :
    ¬ ∀ (r : Registry) (m : BindsModule), r.bindsModule = .ok m → ∀ method ∈ m.methods,
      IsPath method.binding.implementation.text → isIdentifier method.parameter = true := by
  intro hall
  have hwall := hall _ _ bindsModule_schoolAndDotted (.ofBinding dottedWall) (by simp)
    isPath_dottedWall
  exact absurd hwall (by decide +kernel)

end Registry

end Wiring
