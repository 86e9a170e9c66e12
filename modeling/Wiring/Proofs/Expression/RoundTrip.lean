import Wiring.Proofs.Expression.Parse

/-!
  Writing a qualifier and reading it back.

  `Qualifier.IsCanonical` describes the qualifiers that expressions denote.  Whatever an expression
  denotes is canonical (`Qualifier.isCanonical_of_parse`), and the written form of a canonical
  qualifier expresses it by the grammar (`Qualifier.IsCanonical.expresses_write`).

  Main statement: `Qualifier.write_parse_tfae`, writing and reading are inverse on the canonical
  qualifiers and on no others.
-/

namespace Wiring
open Text

/-! ## Canonical qualifiers -/

/-- What an expression can apply a marker to. -/
inductive Argument.IsCanonical (marker : String) : Argument → Prop
  | classRef {name : String} (hname : IsPath name) : IsCanonical marker (.classRef name)
  | constant {path : String} (hpath : IsPath path) (hclass : ∀ name, path ≠ name ++ ".class") :
      IsCanonical marker (.constant path)
  | text {value : String} (hvalue : IsTrimmed value.toList) (hname : marker ∉ nameMarkers) :
      IsCanonical marker (.text value)

/-- What an expression can denote. -/
inductive Qualifier.IsCanonical : Qualifier → Prop
  | named {key : String} (hkey : canonicalSpelling key = key) : IsCanonical (.named key)
  | alone {marker : String} (hm : IsPath marker) : IsCanonical (.marked marker none)
  | applied {marker : String} {a : Argument} (hm : IsPath marker) (ha : a.IsCanonical marker) :
      IsCanonical (.marked marker (some a))

namespace Qualifier

/-! ## What is read is canonical -/

theorem isCanonical_ofName (key : String) : (ofName key).IsCanonical :=
  .named (canonicalSpelling_canonicalSpelling key)

theorem isCanonical_of_denotesApplied {ts us : List Token} {cs : List Char} {marker : String}
    {a : Argument} {q : Qualifier} (hm : IsPath marker) (ha : DenotesValue ts a)
    (hq : DenotesApplied marker a q) (hcs : Spaced us cs) (hsub : ts ⊆ us) : q.IsCanonical := by
  cases ha with
  | literal value =>
    cases hq with
    | name hname => exact isCanonical_ofName value
    | text hname =>
      have htrimmed : IsTrimmed (trimmed value).toList := by
        rw [toList_trimmed]
        exact isTrimmed_trim value.toList
      exact .applied hm (.text htrimmed hname)
  | classRef segments hne =>
    cases hq
    have hident := identifiers_of_subset hcs hsub
    exact .applied hm
      (.classRef ⟨segments, hne, fun name hname => hident name (by simp [hname]), rfl⟩)
  | constant segments hne hclass =>
    cases hq
    have hident := identifiers_of_subset hcs hsub
    exact .applied hm
      (.constant ⟨segments, hne, hident, rfl⟩ ((forall_pathText_ne_iff hident).2 hclass))

theorem isCanonical_of_expresses {e : String} {q : Qualifier} (h : Expresses e q) :
    q.IsCanonical := by
  obtain ⟨ts, hdenotes, hspaced⟩ := h
  cases hdenotes with
  | literal text => exact isCanonical_ofName text
  | alone segments hne => exact .alone (isPath_of_subset hspaced hne (by simp))
  | empty segments hne => exact .alone (isPath_of_subset hspaced hne (by simp))
  | applied segments hne ha hq =>
    have hm : IsPath (pathText segments) := isPath_of_subset hspaced hne (by simp)
    cases ha with
    | intro hasKey hvalue =>
      exact isCanonical_of_denotesApplied hm hvalue hq hspaced fun t ht => by simp [ht]

/-- **What is read is canonical.** -/
theorem isCanonical_of_parse {e : String} {q : Qualifier} (h : parse e = .ok q) :
    q.IsCanonical := by
  rcases eq_ofName_or_expresses_of_parse h with rfl | hexpresses
  · exact isCanonical_ofName e
  · exact isCanonical_of_expresses hexpresses

end Qualifier

/-! ## What is written is an expression -/

/-- The backslashes in a string literal are taken away again. -/
theorem unescapes_escaped (cs : List Char) : Unescapes (cs.flatMap escaped) cs := by
  induction cs with
  | nil => exact .nil
  | cons c rest ih =>
    rw [List.flatMap_cons]
    unfold escaped
    by_cases hc : c = '"' ∨ c = '\\'
    · rw [if_pos hc]
      exact .escaped ih
    · rw [if_neg hc]
      exact .plain (fun hquote => hc (.inl hquote)) (fun hslash => hc (.inr hslash)) ih

theorem spaced_literal (s : String) : Spaced [.literal s] (literal s).toList := by
  rw [toList_literal]
  exact spaced_singleton ⟨s.toList.flatMap escaped, rfl, unescapes_escaped s.toList⟩

theorem spaced_at {segments : List String} {marker : String}
    (hmarker : Spaced (pathTokens segments) marker.toList) :
    Spaced (.mark '@' :: pathTokens segments) ("@" ++ marker).toList := by
  have hat : Spaced [.mark '@'] ['@'] := spaced_singleton rfl
  simpa using hat.append hmarker

theorem spaced_applied {segments : List String} {marker key argument : String}
    (hmarker : Spaced (pathTokens segments) marker.toList) {hasKey : Bool}
    (hkey : Spaced (keyTokens hasKey) key.toList) {ts : List Token}
    (hargument : Spaced ts argument.toList) :
    Spaced (.mark '@' ::
        (pathTokens segments ++ .mark '(' :: (keyTokens hasKey ++ ts ++ [.mark ')'])))
      ("@" ++ marker ++ "(" ++ key ++ argument ++ ")").toList := by
  have hopen := (spaced_at hmarker).concat_mark '('
  have hall := (hopen.append (hkey.append hargument)).concat_mark ')'
  simpa using hall

theorem expresses_applied {segments : List String} (hne : segments ≠ [])
    {marker key argument : String} (hmarker : Spaced (pathTokens segments) marker.toList)
    {hasKey : Bool} (hkey : Spaced (keyTokens hasKey) key.toList) {ts : List Token} {a : Argument}
    (ha : DenotesValue ts a) (hargument : Spaced ts argument.toList) {q : Qualifier}
    (hq : DenotesApplied (pathText segments) a q) :
    Expresses ("@" ++ marker ++ "(" ++ key ++ argument ++ ")") q :=
  ⟨_, .applied segments hne (.intro hasKey ha) hq, spaced_applied hmarker hkey hargument⟩

theorem expresses_pathText {segments : List String} (hne : segments ≠ [])
    (h : Identifiers segments) {ts : List Token} {a : Argument} {argument : String}
    (ha : DenotesValue ts a) (hargument : Spaced ts argument.toList) {q : Qualifier}
    (hq : DenotesApplied (pathText segments) a q) :
    Expresses ("@" ++ pathText segments ++ "(" ++ argument ++ ")") q := by
  have hkey : Spaced (keyTokens false) "".toList := .nil blanks_nil
  have hall := expresses_applied hne (spaced_pathText h) hkey ha hargument hq
  rwa [String.append_empty] at hall

namespace Qualifier

/-- The argument of a canonical qualifier is written as an argument of the grammar. -/
theorem exists_denotesValue_write {marker : String} {a : Argument} (h : a.IsCanonical marker) :
    ∃ ts, DenotesValue ts a ∧ Spaced ts a.write.toList := by
  cases h with
  | @text value _ _ => exact ⟨_, .literal value, spaced_literal value⟩
  | classRef hname =>
    obtain ⟨segments, hne, hident, rfl⟩ := hname
    have hclass : Identifiers (segments ++ ["class"]) := by
      intro seg hseg
      rcases List.mem_append.1 hseg with hseg | hseg
      · exact hident seg hseg
      · rw [List.mem_singleton.1 hseg]
        decide
    have hspaced := spaced_pathText hclass
    rw [pathText_concat hne, String.append_assoc] at hspaced
    exact ⟨_, .classRef segments hne, hspaced⟩
  | constant hpath hclass =>
    obtain ⟨segments, hne, hident, rfl⟩ := hpath
    have hother := (forall_pathText_ne_iff hident).1 hclass
    exact ⟨_, .constant segments hne hother, spaced_pathText hident⟩

theorem denotesApplied_of_isCanonical {marker : String} {a : Argument} (h : a.IsCanonical marker) :
    DenotesApplied marker a (.marked marker (some a)) := by
  cases h with
  | classRef hname => exact .classRef _
  | constant hpath _ => exact .constant _
  | @text value hvalue hname =>
    have htrim : trimmed value = value := by
      apply String.toList_injective
      rw [toList_trimmed, trim_eq_self hvalue]
    have happlied := DenotesApplied.text hname value
    rwa [htrim] at happlied

/-- **The written form of a canonical qualifier expresses it.** -/
theorem IsCanonical.expresses_write {q : Qualifier} (h : q.IsCanonical) : Expresses q.write q := by
  cases h with
  | @named key hkey =>
    -- A name is written as the name marker applied to it, which stands for that name again.
    have hnamed : Identifiers ["Named"] := by
      intro name hname
      rw [List.mem_singleton.1 hname]
      decide
    have hname : DenotesApplied (pathText ["Named"]) (.text key) (.named (canonicalSpelling key)) :=
      .name (by decide) key
    rw [hkey] at hname
    have hpath : pathText ["Named"] = "Named" := by decide
    have hall := expresses_pathText (by simp) hnamed (.literal key) (spaced_literal key) hname
    rwa [hpath] at hall
  | alone hm =>
    obtain ⟨segments, hne, hident, rfl⟩ := hm
    exact ⟨_, .alone segments hne, spaced_at (spaced_pathText hident)⟩
  | @applied marker a hm ha =>
    obtain ⟨ts, hdenotes, hspaced⟩ := exists_denotesValue_write ha
    have happlied := denotesApplied_of_isCanonical ha
    obtain ⟨segments, hne, hident, rfl⟩ := hm
    exact expresses_pathText hne hident hdenotes hspaced happlied

/-- **Writing and reading are inverse on the canonical qualifiers, and on no others.**  A qualifier
is read back from its written form exactly if some expression denotes it, and exactly if it is
canonical.  So the written form of what an expression denotes is read as the same qualifier. -/
theorem write_parse_tfae (q : Qualifier) :
    [parse q.write = .ok q, ∃ e, parse e = .ok q, q.IsCanonical].TFAE ∧
      ∀ e, parse e = .ok q → parse q.write = .ok q := by
  have hread : ∀ e, parse e = .ok q → q.IsCanonical := fun e he => isCanonical_of_parse he
  have hwritten : q.IsCanonical → parse q.write = .ok q := fun h =>
    parse_of_expresses h.expresses_write
  refine ⟨?_, fun e he => hwritten (hread e he)⟩
  tfae_have 1 → 2 := fun h => ⟨q.write, h⟩
  tfae_have 2 → 3 := fun ⟨e, he⟩ => hread e he
  tfae_have 3 → 1 := hwritten
  tfae_finish

end Qualifier

end Wiring
