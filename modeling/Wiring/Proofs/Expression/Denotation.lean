import Wiring.Proofs.Expression.Path

/-!
  What paths and markers stand for, by the functions of the machine and by the grammar.

  The machine looks at texts: `pathArgument` at the ending of a path, `Qualifier.ofMarker` at
  canonical spellings.  The grammar looks at segments (`DenotesValue`) and takes the texts as they
  are (`DenotesApplied`).  On what can stand in an expression, where every name is a path, the two
  agree.

  Proved:
  * `denotesValue_pathArgument`: a path is taken for the same argument;
  * `denotesApplied_iff`: a marker and its argument are taken for the same qualifier.
-/

namespace Wiring
open Text

/-! ## The argument of a path -/

theorem pathArgument_append_class (name : String) :
    pathArgument (name ++ ".class") = .classRef name := by
  have hending : ".class".toList <:+ (name ++ ".class").toList := by
    rw [String.toList_append]
    exact List.suffix_append _ _
  unfold pathArgument
  rw [if_pos hending]
  simp

theorem pathArgument_of_forall_ne {path : String} (h : ∀ name, path ≠ name ++ ".class") :
    pathArgument path = .constant path := by
  unfold pathArgument
  refine if_neg ?_
  rintro ⟨front, hfront⟩
  refine h (String.ofList front) ?_
  apply String.toList_injective
  rw [String.toList_append, String.toList_ofList]
  exact hfront.symm

theorem pathArgument_concat_class {segments : List String} (hne : segments ≠ []) :
    pathArgument (pathText (segments ++ ["class"])) = .classRef (pathText segments) := by
  rw [pathText_concat hne, String.append_assoc]
  exact pathArgument_append_class _

theorem pathArgument_pathText {segments : List String} (h : Identifiers segments)
    (hclass : ∀ init, init ≠ [] → segments ≠ init ++ ["class"]) :
    pathArgument (pathText segments) = .constant (pathText segments) :=
  pathArgument_of_forall_ne ((forall_pathText_ne_iff h).2 hclass)

/-- The tokens of a path denote the argument that its text stands for. -/
theorem denotesValue_pathArgument {segments : List String} (hne : segments ≠ [])
    (h : Identifiers segments) :
    DenotesValue (pathTokens segments) (pathArgument (pathText segments)) := by
  by_cases hclass : ∃ init, init ≠ [] ∧ segments = init ++ ["class"]
  · obtain ⟨init, hinit, rfl⟩ := hclass
    rw [pathArgument_concat_class hinit]
    exact .classRef init hinit
  · have hother : ∀ init, init ≠ [] → segments ≠ init ++ ["class"] := fun init hinit heq =>
      hclass ⟨init, hinit, heq⟩
    rw [pathArgument_pathText h hother]
    exact .constant segments hne hother

/-- The name of a class or of a constant is a path. -/
inductive Argument.OfPaths : Argument → Prop
  | text (value : String) : OfPaths (.text value)
  | classRef {name : String} (hname : IsPath name) : OfPaths (.classRef name)
  | constant {path : String} (hpath : IsPath path) : OfPaths (.constant path)

/-- An argument whose tokens are among those of a text has paths for names. -/
theorem DenotesValue.ofPaths {ts us : List Token} {cs : List Char} {a : Argument}
    (h : DenotesValue ts a) (hcs : Spaced us cs) (hsub : ts ⊆ us) : a.OfPaths := by
  cases h with
  | literal text => exact .text text
  | classRef segments hne =>
    have hident := identifiers_of_subset hcs hsub
    exact .classRef ⟨segments, hne, fun name hname => hident name (by simp [hname]), rfl⟩
  | constant segments hne hclass => exact .constant (isPath_of_subset hcs hne hsub)

theorem DenotesArgument.ofPaths {ts us : List Token} {cs : List Char} {a : Argument}
    (h : DenotesArgument ts a) (hcs : Spaced us cs) (hsub : ts ⊆ us) : a.OfPaths := by
  cases h with
  | intro hasKey hvalue => exact hvalue.ofPaths hcs fun t ht => hsub (by simp [ht])

/-! ## The qualifier of a marker -/

namespace Qualifier

theorem ofMarker_none {marker : String} (hm : IsPath marker) :
    ofMarker marker none = .marked marker none := by
  simp only [ofMarker, Option.map_none, hm.canonicalSpelling_eq]

theorem ofMarker_classRef {marker name : String} (hm : IsPath marker) (hname : IsPath name) :
    ofMarker marker (some (.classRef name)) = .marked marker (some (.classRef name)) := by
  simp only [ofMarker, Option.map_some, Argument.canonical, hm.canonicalSpelling_eq,
    hname.canonicalSpelling_eq]

theorem ofMarker_constant {marker path : String} (hm : IsPath marker) (hpath : IsPath path) :
    ofMarker marker (some (.constant path)) = .marked marker (some (.constant path)) := by
  simp only [ofMarker, Option.map_some, Argument.canonical, hm.canonicalSpelling_eq,
    hpath.canonicalSpelling_eq]

theorem ofMarker_text_of_mem {marker : String} (hm : IsPath marker) (hname : marker ∈ nameMarkers)
    (value : String) : ofMarker marker (some (.text value)) = .named (canonicalSpelling value) := by
  simp only [ofMarker, Option.map_some, Argument.canonical, hm.canonicalSpelling_eq, if_pos hname,
    ofName, canonicalSpelling_trimmed]

theorem ofMarker_text_of_not_mem {marker : String} (hm : IsPath marker)
    (hname : marker ∉ nameMarkers) (value : String) :
    ofMarker marker (some (.text value)) = .marked marker (some (.text (trimmed value))) := by
  simp only [ofMarker, Option.map_some, Argument.canonical, hm.canonicalSpelling_eq, if_neg hname]

end Qualifier

/-- A marker applied to an argument denotes what the constructor makes of them. -/
theorem denotesApplied_iff {marker : String} {a : Argument} (hm : IsPath marker) (ha : a.OfPaths)
    {q : Qualifier} : DenotesApplied marker a q ↔ .ofMarker marker (some a) = q := by
  cases ha with
  | text value =>
    by_cases hname : marker ∈ nameMarkers
    · rw [Qualifier.ofMarker_text_of_mem hm hname]
      constructor
      · rintro (_ | hother)
        · rfl
        · exact absurd hname hother
      · rintro rfl
        exact .name hname value
    · rw [Qualifier.ofMarker_text_of_not_mem hm hname]
      constructor
      · rintro (hmem | _)
        · exact absurd hmem hname
        · rfl
      · rintro rfl
        exact .text hname value
  | classRef hpath =>
    rw [Qualifier.ofMarker_classRef hm hpath]
    constructor
    · rintro ⟨⟩
      rfl
    · rintro rfl
      exact .classRef _
  | constant hpath =>
    rw [Qualifier.ofMarker_constant hm hpath]
    constructor
    · rintro ⟨⟩
      rfl
    · rintro rfl
      exact .constant _

end Wiring
