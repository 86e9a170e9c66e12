import Wiring.Proofs.Expression.Spelling

/-!
  Which spellings are taken for one name.

  A name keeps its parts when it is brought into canonical spelling (`dottedParts_canonicalList`),
  so whether it is a dotted path can be seen from the result.  A dotted path is therefore never
  merged with a free-form name.  Two dotted paths are merged if they have the same segments, and two
  free-form names only if they are the same apart from the blanks at their ends.

  A qualifier made by a constructor has its parts in canonical spelling.  `Qualifier.remake` gives
  them to the constructor once more, which changes nothing.

  Main statement: `canonical_names_are_told_apart`.
-/

namespace Wiring
open Text

/-! ## Spellings of one name -/

/-- The parts of a text between its dots are some segments, with any blanks around them. -/
def SplitsInto (s : String) (segments : List String) : Prop :=
  (s.toList.splitOn '.').map trim = segments.map String.toList

/-- Two texts are the same apart from the blanks at their ends, or they are one dotted path of two
or more identifiers apart from the blanks around the segments. -/
def SameName (a b : String) : Prop :=
  trimmed a = trimmed b ∨
    ∃ segments : List String, 1 < segments.length ∧ Identifiers segments ∧
      SplitsInto a segments ∧ SplitsInto b segments

theorem splitsInto_iff {s : String} {segments : List String} :
    SplitsInto s segments ↔ dottedParts s.toList = segments.map String.toList := by
  rw [SplitsInto, dottedParts_eq]

theorem splitsInto_pathSegments (s : String) : SplitsInto s (pathSegments s) := by
  rw [splitsInto_iff, map_toList_pathSegments]

theorem isDottedPath_iff {segments : List String} :
    IsDottedPath (segments.map String.toList) ↔ 1 < segments.length ∧ Identifiers segments := by
  simp [IsDottedPath, Identifiers, isIdentifier]

/-- A name keeps its parts when it is brought into canonical spelling. -/
theorem dottedParts_canonicalList (cs : List Char) :
    dottedParts (canonicalList cs) = dottedParts cs := by
  unfold canonicalList
  by_cases hpath : IsDottedPath (dottedParts cs)
  · have hne : dottedParts cs ≠ [] := List.ne_nil_of_length_pos (Nat.zero_lt_of_lt hpath.1)
    rw [if_pos hpath, dottedParts_joinDotted hne hpath.2]
  · rw [if_neg hpath, dottedParts_trim]

/-- **Two texts have one canonical spelling exactly if they spell one name.** -/
theorem canonicalSpelling_eq_iff {a b : String} :
    canonicalSpelling a = canonicalSpelling b ↔ SameName a b := by
  constructor
  · intro h
    have hlist : canonicalList a.toList = canonicalList b.toList := by
      simpa using congrArg String.toList h
    have hparts : dottedParts a.toList = dottedParts b.toList := by
      rw [← dottedParts_canonicalList, hlist, dottedParts_canonicalList]
    by_cases hpath : IsDottedPath (dottedParts a.toList)
    · have hsegments := hpath
      rw [← map_toList_pathSegments, isDottedPath_iff] at hsegments
      have hb : SplitsInto b (pathSegments a) := by
        rw [splitsInto_iff, map_toList_pathSegments, hparts]
      exact .inr ⟨pathSegments a, hsegments.1, hsegments.2, splitsInto_pathSegments a, hb⟩
    · -- Both are free-form names, which are only trimmed.
      have hpath' : ¬ IsDottedPath (dottedParts b.toList) := hparts ▸ hpath
      unfold canonicalList at hlist
      rw [if_neg hpath, if_neg hpath'] at hlist
      exact .inl (congrArg String.ofList hlist)
  · rintro (htrimmed | ⟨segments, hlength, hident, ha, hb⟩)
    · rw [← canonicalSpelling_trimmed a, htrimmed, canonicalSpelling_trimmed]
    · have hpath : IsDottedPath (segments.map String.toList) := isDottedPath_iff.2 ⟨hlength, hident⟩
      have hcanonical : ∀ s, SplitsInto s segments →
          canonicalSpelling s = String.ofList (joinDotted (segments.map String.toList)) := by
        intro s hs
        rw [canonicalSpelling, canonicalList, splitsInto_iff.1 hs, if_pos hpath]
      rw [hcanonical a ha, hcanonical b hb]

/-! ## Qualifiers made again -/

theorem Argument.canonical_canonical (a : Argument) : a.canonical.canonical = a.canonical := by
  cases a with
  | text value => simp [canonical, trimmed, trim_trim]
  | _ => simp only [canonical, canonicalSpelling_canonicalSpelling]

namespace Qualifier

/-- The qualifier that the constructors make of the parts of a qualifier. -/
def remake : Qualifier → Qualifier
  | .named key => ofName key
  | .marked marker argument => ofMarker marker argument

/-- A name marker is made into a name if it is applied to a text.  Otherwise the parts are kept in
canonical spelling. -/
theorem ofMarker_cases (marker : String) (argument : Option Argument) :
    (canonicalSpelling marker ∈ nameMarkers ∧
      ∃ value, argument = some (.text value) ∧ ofMarker marker argument = ofName value) ∨
    ((∀ value, argument = some (.text value) → canonicalSpelling marker ∉ nameMarkers) ∧
      ofMarker marker argument =
        .marked (canonicalSpelling marker) (argument.map Argument.canonical)) := by
  by_cases hname : canonicalSpelling marker ∈ nameMarkers
  · cases argument with
    | none => exact .inr ⟨by simp, rfl⟩
    | some a =>
      cases a with
      | text value =>
        refine .inl ⟨hname, value, rfl, ?_⟩
        simp only [ofMarker, Option.map_some, Argument.canonical, if_pos hname, ofName,
          canonicalSpelling_trimmed]
      | _ => exact .inr ⟨by simp, rfl⟩
  · refine .inr ⟨fun _ _ => hname, ?_⟩
    unfold ofMarker
    split
    · next htext => rw [if_neg hname, htext]
    · rfl

theorem remake_ofName (key : String) : (ofName key).remake = ofName key := by
  simp only [ofName, remake, canonicalSpelling_canonicalSpelling]

/-- A marker made again is the same, whether it has become a name or not. -/
theorem remake_ofMarker (marker : String) (argument : Option Argument) :
    (ofMarker marker argument).remake = ofMarker marker argument := by
  rcases ofMarker_cases marker argument with ⟨-, value, -, hmade⟩ | ⟨-, hmade⟩
  · rw [hmade, remake_ofName]
  · have hremake : (ofMarker marker argument).remake =
        ofMarker (canonicalSpelling marker) (argument.map Argument.canonical) := by
      rw [hmade, remake]
    rw [hremake]
    refine ofMarker_congr (canonicalSpelling_canonicalSpelling marker) ?_
    simp only [Option.map_map, Function.comp_def, Argument.canonical_canonical]

theorem ofMarker_ne_text (marker : String) (argument : Option Argument) {name : String}
    (hname : name ∈ nameMarkers) (value : String) :
    ofMarker marker argument ≠ .marked name (some (.text value)) := by
  intro heq
  rcases ofMarker_cases marker argument with ⟨-, key, -, hmade⟩ | ⟨hother, hmade⟩
  · cases hmade.symm.trans heq
  · obtain ⟨rfl, hargument⟩ := Qualifier.marked.inj (hmade.symm.trans heq)
    obtain ⟨a, rfl, htext⟩ := Option.map_eq_some_iff.1 hargument
    cases a with
    | text given => exact hother given rfl hname
    | _ => cases htext

end Qualifier

/-! ## Main statement -/

/-- **Exactly the spellings of one name are merged, and canonical names are kept.**  A canonical
spelling is its own.  Two texts have the same one exactly if they are equal apart from the blanks at
their ends, or split at their dots into the same two or more identifiers.  Whatever a constructor of
qualifiers makes is made again from its parts, and a name marker is never left applied to a text. -/
theorem canonical_names_are_told_apart :
    (∀ a, canonicalSpelling (canonicalSpelling a) = canonicalSpelling a) ∧
    (∀ a b, canonicalSpelling a = canonicalSpelling b ↔ SameName a b) ∧
    (∀ key, (Qualifier.ofName key).remake = Qualifier.ofName key) ∧
    ∀ marker argument,
      (Qualifier.ofMarker marker argument).remake = Qualifier.ofMarker marker argument ∧
        ∀ name ∈ nameMarkers, ∀ value,
          Qualifier.ofMarker marker argument ≠ .marked name (some (.text value)) := by
  refine ⟨canonicalSpelling_canonicalSpelling, fun a b => canonicalSpelling_eq_iff,
    Qualifier.remake_ofName, ?_⟩
  intro marker argument
  exact ⟨Qualifier.remake_ofMarker marker argument,
    fun name hname value => Qualifier.ofMarker_ne_text marker argument hname value⟩

end Wiring
