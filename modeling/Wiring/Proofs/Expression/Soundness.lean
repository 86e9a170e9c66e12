import Wiring.Proofs.Expression.Denotation
import Wiring.Proofs.Expression.Run

/-!
  What the machine accepts is an expression by the grammar.

  `State.Has s cs` is the invariant: it says of a state what the characters read so far are by the
  grammar.  A step keeps it (`State.Has.step`), so a run does (`State.Has.reaches`), and a state
  that can finish has read a whole expression for its qualifier (`State.Has.finish`).
-/

namespace Wiring
open Text

/-! ## The invariant -/

/-- The tokens in front of a path. -/
inductive Opens : Place → List Token → Prop
  | marker : Opens .marker [.mark '@']
  | argument (segments : List String) (hne : segments ≠ []) (hasKey : Bool) :
      Opens (.argument (pathText segments) hasKey)
        (.mark '@' :: (pathTokens segments ++ .mark '(' :: keyTokens hasKey))

/-- The tokens in front of a string, by itself or as the argument of a marker. -/
def OpensLiteral (marker : Option String) (ts : List Token) : Prop :=
  match marker with
  | none => ts = []
  | some marker => ∃ hasKey, Opens (.argument marker hasKey) ts

namespace State

/-- What has been read when the machine is in a state. -/
def Has : State → List Char → Prop
  | .atSegment place segments, cs => ∃ ts, Opens place ts ∧ Spaced (ts ++ dottedTokens segments) cs
  | .inSegment place segments current, cs =>
    ∃ ts front, Opens place ts ∧ Spaced (ts ++ dottedTokens segments) front ∧
      isIdentifier current = true ∧ cs = front ++ current.toList
  | .afterSegment place segments, cs =>
    segments ≠ [] ∧ ∃ ts, Opens place ts ∧ Spaced (ts ++ pathTokens segments) cs
  | .opened marker, cs => ∃ ts, Opens (.argument marker false) ts ∧ Spaced ts cs
  | .keyed marker, cs => ∃ ts, Opens (.argument marker true) ts ∧ Spaced ts cs
  | .inLiteral marker text escaped, cs =>
    ∃ ts front body, OpensLiteral marker ts ∧ Spaced ts front ∧ Unescapes body text.toList ∧
      cs = front ++ '"' :: (body ++ if escaped then ['\\'] else [])
  | .afterArgument marker argument, cs =>
    ∃ hasKey ts us, Opens (.argument marker hasKey) ts ∧ DenotesValue us argument ∧
      Spaced (ts ++ us) cs
  | .complete q, cs => ∃ ts, Denotes ts q ∧ Spaced ts cs

end State

/-- A closing parenthesis after a marker and its argument ends an expression. -/
theorem denotes_of_opens {marker : String} {hasKey : Bool} {ts us : List Token} {a : Argument}
    {cs : List Char} (h : Opens (.argument marker hasKey) ts) (ha : DenotesValue us a)
    (hcs : Spaced (ts ++ us) cs) :
    Denotes (ts ++ us ++ [.mark ')']) (.ofMarker marker (some a)) := by
  have hpaths : a.OfPaths := ha.ofPaths hcs (by simp)
  cases h with
  | argument segments hne hasKey =>
    have hm : IsPath (pathText segments) := isPath_of_subset hcs hne (by simp)
    have hq := (denotesApplied_iff hm hpaths).2 rfl
    simpa using Denotes.applied segments hne (.intro hasKey ha) hq

theorem denotes_of_opens_empty {marker : String} {ts : List Token} {cs : List Char}
    (h : Opens (.argument marker false) ts) (hcs : Spaced ts cs) :
    Denotes (ts ++ [.mark ')']) (.ofMarker marker none) := by
  cases h with
  | argument segments hne hasKey =>
    have hm : IsPath (pathText segments) := isPath_of_subset hcs hne (by simp)
    rw [Qualifier.ofMarker_none hm]
    simpa [keyTokens] using Denotes.empty segments hne

theorem denotes_of_opens_marker {segments : List String} {ts : List Token} {cs : List Char}
    (hne : segments ≠ []) (h : Opens .marker ts) (hcs : Spaced (ts ++ pathTokens segments) cs) :
    Denotes (ts ++ pathTokens segments) (.ofMarker (pathText segments) none) := by
  rw [Qualifier.ofMarker_none (isPath_of_subset hcs hne (List.subset_append_right _ _))]
  cases h
  exact Denotes.alone segments hne

theorem opens_argument {segments : List String} {ts : List Token} (hne : segments ≠ [])
    (h : Opens .marker ts) :
    Opens (.argument (pathText segments) false) (ts ++ pathTokens segments ++ [.mark '(']) := by
  cases h
  have := Opens.argument segments hne false
  simpa [keyTokens] using this

/-- The key is read like a path of one segment, up to its `=`. -/
theorem opens_keyed {marker : String} {ts : List Token} (h : Opens (.argument marker false) ts) :
    Opens (.argument marker true) (ts ++ pathTokens ["value"] ++ [.mark '=']) := by
  cases h with
  | argument segments hne hasKey =>
    have := Opens.argument segments hne true
    simpa [keyTokens, pathTokens] using this

/-! ## A step -/

namespace State

theorem isIdentifier_push {name : String} {c : Char} (h : isIdentifier name = true)
    (hc : isIdentifierPart c = true) : isIdentifier (name.push c) = true := by
  unfold isIdentifier at h ⊢
  have hne : name.toList ≠ [] := by
    intro hnil
    rw [hnil] at h
    cases h
  rw [String.toList_push, isIdentifierList_append hne, h]
  simp [hc]

theorem isIdentifier_singleton {c : Char} (hc : isIdentifierStart c = true) :
    isIdentifier (String.singleton c) = true := by
  simp [isIdentifier, isIdentifierList, hc]

theorem has_afterSegment {place : Place} {segments : List String} {current : String}
    {cs : List Char} (h : (inSegment place segments current).Has cs) :
    (afterSegment place (segments ++ [current])).Has cs := by
  obtain ⟨ts, front, hopens, hspaced, hident, rfl⟩ := h
  refine ⟨by simp, ts, hopens, ?_⟩
  rw [pathTokens_concat, ← List.append_assoc]
  exact hspaced.concat ⟨rfl, hident⟩

theorem has_stepAfterSegment {place : Place} {segments : List String} {c : Char} {next : State}
    {cs : List Char} (h : (afterSegment place segments).Has cs)
    (hstep : stepAfterSegment place segments c = .ok next) : next.Has (cs ++ [c]) := by
  obtain ⟨hne, ts, hopens, hspaced⟩ := h
  unfold stepAfterSegment at hstep
  by_cases hblank : isBlank c = true
  · rw [if_pos hblank] at hstep
    cases hstep
    exact ⟨hne, ts, hopens, hspaced.concat_blank hblank⟩
  rw [if_neg hblank] at hstep
  by_cases hdot : c = '.'
  · rw [if_pos hdot] at hstep
    cases hstep
    subst hdot
    refine ⟨ts, hopens, ?_⟩
    rw [dottedTokens_eq hne, ← List.append_assoc]
    exact hspaced.concat_mark '.'
  rw [if_neg hdot] at hstep
  cases place with
  | marker =>
    by_cases hparen : c = '('
    · subst hparen
      cases hstep
      exact ⟨_, opens_argument hne hopens, hspaced.concat_mark '('⟩
    · simp [hparen] at hstep
  | argument marker hasKey =>
    by_cases hparen : c = ')'
    · subst hparen
      cases hstep
      have hident := identifiers_of_subset hspaced (List.subset_append_right _ _)
      have hvalue := denotesValue_pathArgument hne hident
      exact ⟨_, denotes_of_opens hopens hvalue hspaced, hspaced.concat_mark ')'⟩
    · by_cases hkey : c = '=' ∧ hasKey = false ∧ segments = ["value"]
      · obtain ⟨rfl, rfl, rfl⟩ := hkey
        cases hstep
        exact ⟨_, opens_keyed hopens, hspaced.concat_mark '='⟩
      · simp [hparen, hkey] at hstep

theorem has_stepArgument {marker : String} {hasKey : Bool} {c : Char} {next : State}
    {cs : List Char} {ts : List Token} (hopens : Opens (.argument marker hasKey) ts)
    (hspaced : Spaced ts cs) (hstep : stepArgument marker hasKey c = .ok next) :
    next.Has (cs ++ [c]) := by
  unfold stepArgument at hstep
  by_cases hquote : c = '"'
  · rw [if_pos hquote] at hstep
    cases hstep
    subst hquote
    exact ⟨ts, cs, [], ⟨hasKey, hopens⟩, hspaced, .nil, by simp⟩
  rw [if_neg hquote] at hstep
  by_cases hstart : isIdentifierStart c = true
  · rw [if_pos hstart] at hstep
    cases hstep
    exact ⟨ts, cs, hopens, by simpa [dottedTokens] using hspaced, isIdentifier_singleton hstart,
      by simp⟩
  · simp [hstart] at hstep

theorem has_afterLiteral {marker : Option String} {text : String} {cs : List Char}
    (h : (inLiteral marker text false).Has cs) :
    (afterLiteral marker text).Has (cs ++ ['"']) := by
  obtain ⟨ts, front, body, hopens, hspaced, hbody, rfl⟩ := h
  have hall : Spaced (ts ++ [.literal text]) (front ++ '"' :: (body ++ ['"'])) :=
    hspaced.concat ⟨body, rfl, hbody⟩
  have hcs : front ++ '"' :: (body ++ if false = true then ['\\'] else []) ++ ['"'] =
      front ++ '"' :: (body ++ ['"']) := by simp
  rw [hcs]
  cases marker with
  | none =>
    cases hopens
    exact ⟨_, .literal text, hall⟩
  | some marker =>
    obtain ⟨hasKey, hopens⟩ := hopens
    exact ⟨hasKey, ts, _, hopens, .literal text, hall⟩

/-- A step keeps the invariant. -/
theorem Has.step {s next : State} {c : Char} {cs : List Char} (h : s.Has cs)
    (hstep : s.step c = .ok next) : next.Has (cs ++ [c]) := by
  cases s with
  | atSegment place segments =>
    obtain ⟨ts, hopens, hspaced⟩ := h
    simp only [State.step] at hstep
    by_cases hblank : isBlank c = true
    · rw [if_pos hblank] at hstep
      cases hstep
      exact ⟨ts, hopens, hspaced.concat_blank hblank⟩
    rw [if_neg hblank] at hstep
    by_cases hstart : isIdentifierStart c = true
    · rw [if_pos hstart] at hstep
      cases hstep
      exact ⟨ts, cs, hopens, hspaced, isIdentifier_singleton hstart, by simp⟩
    · simp [hstart] at hstep
  | inSegment place segments current =>
    simp only [State.step] at hstep
    by_cases hpart : isIdentifierPart c = true
    · rw [if_pos hpart] at hstep
      cases hstep
      obtain ⟨ts, front, hopens, hspaced, hident, rfl⟩ := h
      exact ⟨ts, front, hopens, hspaced, isIdentifier_push hident hpart, by simp⟩
    · -- The segment ends in front of this character, as if a blank stood there.
      rw [if_neg hpart] at hstep
      exact has_stepAfterSegment (has_afterSegment h) hstep
  | afterSegment place segments => exact has_stepAfterSegment h hstep
  | opened marker =>
    obtain ⟨ts, hopens, hspaced⟩ := h
    simp only [State.step] at hstep
    by_cases hblank : isBlank c = true
    · rw [if_pos hblank] at hstep
      cases hstep
      exact ⟨ts, hopens, hspaced.concat_blank hblank⟩
    rw [if_neg hblank] at hstep
    by_cases hparen : c = ')'
    · rw [if_pos hparen] at hstep
      cases hstep
      subst hparen
      exact ⟨_, denotes_of_opens_empty hopens hspaced, hspaced.concat_mark ')'⟩
    · rw [if_neg hparen] at hstep
      exact has_stepArgument hopens hspaced hstep
  | keyed marker =>
    obtain ⟨ts, hopens, hspaced⟩ := h
    simp only [State.step] at hstep
    by_cases hblank : isBlank c = true
    · rw [if_pos hblank] at hstep
      cases hstep
      exact ⟨ts, hopens, hspaced.concat_blank hblank⟩
    · rw [if_neg hblank] at hstep
      exact has_stepArgument hopens hspaced hstep
  | inLiteral marker text escaped =>
    cases escaped with
    | true =>
      cases hstep
      obtain ⟨ts, front, body, hopens, hspaced, hbody, rfl⟩ := h
      refine ⟨ts, front, body ++ ['\\', c], hopens, hspaced, ?_, by simp⟩
      rw [String.toList_push]
      exact hbody.append (.escaped .nil)
    | false =>
      simp only [State.step] at hstep
      by_cases hquote : c = '"'
      · rw [if_pos hquote] at hstep
        cases hstep
        subst hquote
        exact has_afterLiteral h
      rw [if_neg hquote] at hstep
      obtain ⟨ts, front, body, hopens, hspaced, hbody, rfl⟩ := h
      by_cases hslash : c = '\\'
      · rw [if_pos hslash] at hstep
        cases hstep
        subst hslash
        exact ⟨ts, front, body, hopens, hspaced, hbody, by simp⟩
      · rw [if_neg hslash] at hstep
        cases hstep
        refine ⟨ts, front, body ++ [c], hopens, hspaced, ?_, by simp⟩
        rw [String.toList_push]
        exact hbody.append (.plain hquote hslash .nil)
  | afterArgument marker argument =>
    obtain ⟨hasKey, ts, us, hopens, hargument, hspaced⟩ := h
    simp only [State.step] at hstep
    by_cases hblank : isBlank c = true
    · rw [if_pos hblank] at hstep
      cases hstep
      exact ⟨hasKey, ts, us, hopens, hargument, hspaced.concat_blank hblank⟩
    rw [if_neg hblank] at hstep
    by_cases hparen : c = ')'
    · rw [if_pos hparen] at hstep
      cases hstep
      subst hparen
      exact ⟨_, denotes_of_opens hopens hargument hspaced, hspaced.concat_mark ')'⟩
    · simp [hparen] at hstep
  | complete q =>
    obtain ⟨ts, hdenotes, hspaced⟩ := h
    simp only [State.step] at hstep
    by_cases hblank : isBlank c = true
    · rw [if_pos hblank] at hstep
      cases hstep
      exact ⟨ts, hdenotes, hspaced.concat_blank hblank⟩
    · simp [hblank] at hstep

/-! ## A run -/

/-- A run keeps the invariant. -/
theorem Has.reaches {s last : State} {cs ds : List Char} (h : s.Has cs)
    (hrun : s.Reaches ds last) : last.Has (cs ++ ds) := by
  induction hrun generalizing cs with
  | nil =>
    rw [List.append_nil]
    exact h
  | cons hstep _ ih =>
    have := ih (h.step hstep)
    simpa using this

/-- A state that can finish has read a whole expression. -/
theorem Has.finish {s : State} {cs : List Char} {q : Qualifier} (h : s.Has cs)
    (hfinish : s.finish = .ok q) : ∃ ts, Denotes ts q ∧ Spaced ts cs := by
  cases s with
  | inSegment place segments current =>
    cases place with
    | marker =>
      cases hfinish
      obtain ⟨hne, ts, hopens, hspaced⟩ := has_afterSegment h
      exact ⟨_, denotes_of_opens_marker hne hopens hspaced, hspaced⟩
    | argument marker hasKey => cases hfinish
  | afterSegment place segments =>
    cases place with
    | marker =>
      cases hfinish
      obtain ⟨hne, ts, hopens, hspaced⟩ := h
      exact ⟨_, denotes_of_opens_marker hne hopens hspaced, hspaced⟩
    | argument marker hasKey => cases hfinish
  | complete q' =>
    cases hfinish
    exact h
  | atSegment place segments => cases hfinish
  | opened marker => cases hfinish
  | keyed marker => cases hfinish
  | inLiteral marker text escaped => cases hfinish
  | afterArgument marker argument => cases hfinish

/-- The first character of an expression, after blanks, starts the invariant. -/
theorem has_opening {b : List Char} {c : Char} {s : State} (hb : Blanks b)
    (hs : opening? c = some s) : s.Has (b ++ [c]) := by
  rcases opening?_eq_some_iff.1 hs with ⟨rfl, rfl⟩ | ⟨rfl, rfl⟩
  · exact ⟨_, .marker, (Spaced.nil hb).concat_mark '@'⟩
  · exact ⟨[], b, [], rfl, .nil hb, .nil, by simp⟩

end State

end Wiring
