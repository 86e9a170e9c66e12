import Wiring.Proofs.Expression.Grammar

/-!
  Dotted paths, as texts.

  `IsPath` says that a text is one or more identifiers with a dot between any two.  Such a text is
  its own canonical spelling (`canonicalSpelling_pathText`), it is made of the tokens of its path
  (`spaced_pathText`), and its last segment can be told from its ending
  (`pathText_eq_append_class_iff`), so a class and a constant are never taken for each other.
-/

namespace Wiring
open Text

/-- All names are identifiers. -/
def Identifiers (segments : List String) : Prop := ∀ name ∈ segments, isIdentifier name = true

/-- A text is one or more identifiers with a dot between any two. -/
def IsPath (s : String) : Prop :=
  ∃ segments, segments ≠ [] ∧ Identifiers segments ∧ s = pathText segments

/-! ## The characters of a path -/

theorem pathText_cons_cons (name next : String) (rest : List String) :
    pathText (name :: next :: rest) = name ++ "." ++ pathText (next :: rest) := by
  unfold pathText
  rw [String.intercalate_cons_cons]

theorem toList_pathText (segments : List String) :
    (pathText segments).toList = joinDotted (segments.map String.toList) := by
  unfold joinDotted
  induction segments with
  | nil => rfl
  | cons name rest ih =>
    cases rest with
    | nil => simp [pathText]
    | cons next rest =>
      have hne : (next :: rest).map String.toList ≠ [] := by simp
      rw [pathText_cons_cons, String.toList_append, String.toList_append, ih,
        List.map_cons (l := next :: rest), List.intercalate_cons_of_ne_nil hne]
      rfl

theorem pathText_concat {segments : List String} (hne : segments ≠ []) (name : String) :
    pathText (segments ++ [name]) = pathText segments ++ "." ++ name := by
  induction segments with
  | nil => exact absurd rfl hne
  | cons first rest ih =>
    cases rest with
    | nil =>
      rw [List.singleton_append, pathText_cons_cons]
      simp [pathText]
    | cons next rest =>
      have hrest := ih (List.cons_ne_nil next rest)
      rw [List.cons_append] at hrest
      rw [List.cons_append, List.cons_append, pathText_cons_cons, hrest, pathText_cons_cons]
      simp only [String.append_assoc]

/-! ## The canonical spelling of a path -/

theorem canonicalList_joinDotted {parts : List (List Char)} (hne : parts ≠ [])
    (h : ∀ part ∈ parts, isIdentifierList part = true) :
    canonicalList (joinDotted parts) = joinDotted parts := by
  unfold canonicalList
  rw [dottedParts_joinDotted hne h]
  by_cases hpath : IsDottedPath parts
  · rw [if_pos hpath]
  · rw [if_neg hpath, trim_eq_self_of_forall (isBlank_eq_false_of_mem_joinDotted h)]

/-- A path is in canonical spelling. -/
theorem canonicalSpelling_pathText {segments : List String} (hne : segments ≠ [])
    (h : Identifiers segments) : canonicalSpelling (pathText segments) = pathText segments := by
  apply String.toList_injective
  rw [toList_canonicalSpelling, toList_pathText]
  refine canonicalList_joinDotted (by simpa using hne) ?_
  intro part hpart
  obtain ⟨name, hname, rfl⟩ := List.mem_map.1 hpart
  exact h name hname

theorem IsPath.canonicalSpelling_eq {s : String} (h : IsPath s) : canonicalSpelling s = s := by
  obtain ⟨segments, hne, hident, rfl⟩ := h
  exact canonicalSpelling_pathText hne hident

/-- Blanks at the ends make no difference to the canonical spelling. -/
theorem canonicalSpelling_trimmed (s : String) :
    canonicalSpelling (trimmed s) = canonicalSpelling s := by
  apply String.toList_injective
  simp only [toList_canonicalSpelling, toList_trimmed]
  unfold canonicalList
  rw [dottedParts_trim, trim_trim]

/-! ## The last segment of a path -/

/-- What stands behind the last dot of a text. -/
theorem eq_of_append_dot {front front' last last' : List Char} (h : '.' ∉ last) (h' : '.' ∉ last')
    (heq : front ++ '.' :: last = front' ++ '.' :: last') : front = front' ∧ last = last' := by
  -- If one front were longer, its dot would stand in the other text's last part.
  rcases List.append_eq_append_iff.1 heq with ⟨mid, hfront, hlast⟩ | ⟨mid, hfront, hlast⟩
  · cases mid with
    | nil =>
      rw [List.append_nil] at hfront
      exact ⟨hfront.symm, (List.cons.inj hlast).2⟩
    | cons c mid =>
      have hmem : '.' ∈ last := by
        rw [(List.cons.inj hlast).2]
        simp
      exact absurd hmem h
  · cases mid with
    | nil =>
      rw [List.append_nil] at hfront
      exact ⟨hfront, (List.cons.inj hlast).2.symm⟩
    | cons c mid =>
      have hmem : '.' ∈ last' := by
        rw [(List.cons.inj hlast).2]
        simp
      exact absurd hmem h'

theorem dot_not_mem_toList {name : String} (h : isIdentifier name = true) : '.' ∉ name.toList :=
  dot_not_mem_of_isIdentifierList h

/-- A path ends in `.class` exactly if it has several segments and `class` is the last. -/
theorem pathText_eq_append_class_iff {segments : List String} (h : Identifiers segments)
    {front : String} :
    pathText segments = front ++ ".class" ↔
      ∃ init, init ≠ [] ∧ segments = init ++ ["class"] ∧ front = pathText init := by
  have hclass : '.' ∉ "class".toList := by decide
  constructor
  · intro heq
    rcases List.eq_nil_or_concat segments with rfl | ⟨init, name, rfl⟩
    · have hlist := congrArg String.toList heq
      simp [pathText] at hlist
    rw [List.concat_eq_append] at h heq ⊢
    have hname : '.' ∉ name.toList := dot_not_mem_toList (h name (by simp))
    have hlist := congrArg String.toList heq
    by_cases hinit : init = []
    · -- One segment alone holds no dot.
      subst hinit
      have hdot : '.' ∈ name.toList := by
        have hall : name.toList = front.toList ++ ".class".toList := by
          simpa [pathText] using hlist
        rw [hall]
        simp
      exact absurd hdot hname
    · rw [pathText_concat hinit] at hlist
      have hsplit : (pathText init).toList ++ '.' :: name.toList =
          front.toList ++ '.' :: "class".toList := by simpa using hlist
      obtain ⟨hfront, hlast⟩ := eq_of_append_dot hname hclass hsplit
      rw [String.toList_injective hlast]
      exact ⟨init, hinit, rfl, (String.toList_injective hfront).symm⟩
  · rintro ⟨init, hinit, rfl, rfl⟩
    rw [pathText_concat hinit, String.append_assoc]
    rfl

theorem forall_pathText_ne_iff {segments : List String} (h : Identifiers segments) :
    (∀ name, pathText segments ≠ name ++ ".class") ↔
      ∀ init, init ≠ [] → segments ≠ init ++ ["class"] := by
  constructor
  · intro htext init hinit hsegments
    exact htext _ ((pathText_eq_append_class_iff h).2 ⟨init, hinit, hsegments, rfl⟩)
  · intro hsegments name htext
    obtain ⟨init, hinit, heq, -⟩ := (pathText_eq_append_class_iff h).1 htext
    exact hsegments init hinit heq

/-! ## The tokens of a path -/

/-- A path is written as its tokens, without blanks. -/
theorem spaced_pathText {segments : List String} (h : Identifiers segments) :
    Spaced (pathTokens segments) (pathText segments).toList := by
  induction segments with
  | nil => exact .nil blanks_nil
  | cons name rest ih =>
    have hname : isIdentifier name = true := h name List.mem_cons_self
    have hrest : Identifiers rest := fun next hnext => h next (List.mem_cons_of_mem name hnext)
    cases rest with
    | nil =>
      have hword : (Token.identifier name).Written name.toList := ⟨rfl, hname⟩
      simpa [pathTokens, pathText] using spaced_singleton hword
    | cons next rest =>
      have hfirst : Spaced [.identifier name] name.toList := spaced_singleton ⟨rfl, hname⟩
      have hall := (hfirst.concat_mark '.').append (ih hrest)
      rw [pathText_cons_cons]
      simpa [pathTokens] using hall

theorem mem_pathTokens {segments : List String} {name : String} (h : name ∈ segments) :
    .identifier name ∈ pathTokens segments := by
  induction segments with
  | nil => cases h
  | cons first rest ih =>
    rcases List.mem_cons.1 h with rfl | h
    · cases rest <;> simp [pathTokens]
    · have hmem := ih h
      cases rest with
      | nil => cases h
      | cons next rest => simp [pathTokens, hmem]

theorem exists_written_of_mem {ts : List Token} {cs : List Char} (h : Spaced ts cs) {t : Token}
    (ht : t ∈ ts) : ∃ w, t.Written w := by
  induction h with
  | nil hb => cases ht
  | @cons b w rest u us hb hw _ ih =>
    rcases List.mem_cons.1 ht with rfl | ht
    · exact ⟨w, hw⟩
    · exact ih ht

/-- A path among the tokens of a text is made of identifiers. -/
theorem identifiers_of_subset {ts : List Token} {cs : List Char} (h : Spaced ts cs)
    {segments : List String} (hsub : pathTokens segments ⊆ ts) : Identifiers segments := by
  intro name hname
  obtain ⟨w, -, hident⟩ := exists_written_of_mem h (hsub (mem_pathTokens hname))
  exact hident

theorem isPath_of_subset {ts : List Token} {cs : List Char} (h : Spaced ts cs)
    {segments : List String} (hne : segments ≠ []) (hsub : pathTokens segments ⊆ ts) :
    IsPath (pathText segments) :=
  ⟨segments, hne, identifiers_of_subset h hsub, rfl⟩

end Wiring
