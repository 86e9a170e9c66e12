import Wiring.Proofs.CanonicalNames
import Wiring.Proofs.NameForms
import Wiring.Proofs.Rebuild

/-!
  Name markers without a key.

  A provision under a name marker that lacks its key is made under the name of its implementation.
  The same name can be written out as a string literal, which goes another way: its backslashes are
  taken away and the text is brought into canonical spelling.  The name of an implementation is in
  canonical spelling, so both ways end at the same qualifier, whatever characters are in the name.

  `Qualifier.parse_eq_marked_none_iff` says which expressions these are, and
  `Pass.provide_qualifiedBy` what becomes of a provision under any expression.  A registration that
  is accepted has its binding in the registry, whatever is called after it
  (`Pass.resolve_of_accepted`).

  Main statement: `Pass.keyless_marker_names_the_implementation`.
-/

namespace Wiring
open Text

/-! ## Markers without argument -/

/-- An expression is a written form of a marker without argument: its path behind an `@`, with any
blanks between its tokens, and with an empty pair of parentheses or without. -/
inductive WritesAlone (marker : String) (e : String) : Prop
  | alone {segments : List String} (hne : segments ≠ []) (hmarker : pathText segments = marker)
      (he : Spaced (.mark '@' :: pathTokens segments) e.toList)
  | empty {segments : List String} (hne : segments ≠ []) (hmarker : pathText segments = marker)
      (he : Spaced (.mark '@' :: (pathTokens segments ++ [.mark '(', .mark ')'])) e.toList)

namespace Qualifier

/-- **The expressions of a marker without argument are its written forms.** -/
theorem parse_eq_marked_none_iff {e marker : String} :
    parse e = .ok (.marked marker none) ↔ WritesAlone marker e := by
  constructor
  · intro h
    rcases eq_ofName_or_expresses_of_parse h with hname | ⟨ts, hdenotes, hspaced⟩
    · cases hname
    · cases hdenotes with
      | alone segments hne => exact .alone hne rfl hspaced
      | empty segments hne => exact .empty hne rfl hspaced
      | applied segments hne ha hq => cases hq
  · rintro (⟨hne, rfl, he⟩ | ⟨hne, rfl, he⟩)
    · exact parse_of_expresses ⟨_, .alone _ hne, he⟩
    · exact parse_of_expresses ⟨_, .empty _ hne, he⟩

theorem isKeyless_eq_true_iff {q : Qualifier} :
    q.isKeyless = true ↔ ∃ marker ∈ nameMarkers, q = .marked marker none := by
  cases q with
  | named key => simp [isKeyless]
  | marked marker argument => cases argument <;> simp [isKeyless]

end Qualifier

/-! ## Provisions under an expression -/

namespace Pass

/-- What becomes of a provision under an expression: it is refused if the implementation may not be
bound to the capability, and registered under the qualifier of the expression if it may. -/
theorem provide_qualifiedBy (p : Pass) (a : Provision) {e : String} {q : Qualifier}
    (h : Qualifier.parse e = .ok q) :
    p.provide (a.qualifiedBy e) =
      if a.implementsCapability then
        p.register a.capability (some (a.resolveKeyless q)) a.implementation
      else
        let refusal := BindError.notAnImplementer a.implementation a.capability
        ⟨p, .error refusal, [.provisionRejected refusal]⟩ := by
  by_cases himplements : a.implementsCapability = true
  · have hqualifier : (a.qualifiedBy e).qualifier = .ok (some (a.resolveKeyless q)) :=
      Provision.qualifier_eq_ok_iff.2 ⟨himplements, .inr ⟨e, q, rfl, h, rfl⟩⟩
    rw [provide_of_ok hqualifier, if_pos himplements]
    rfl
  · have hqualifier : (a.qualifiedBy e).qualifier =
        .error (.notAnImplementer a.implementation a.capability) := if_neg himplements
    rw [provide_of_error hqualifier, if_neg himplements]

theorem resolve_of_accepted {p : Pass} {c : TypeName} {q : Option Qualifier} {impl : TypeName}
    (hok : (p.register c q impl).result = .ok ()) {calls : List Call} {r : Registry}
    (hbuild : ((p.register c q impl).pass.after calls).build = .ok r) :
    r.resolve c q = .ok ⟨c, q, impl⟩ := by
  cases hslot : p.index.slot c q with
  | cons existing rest =>
    rw [register_of_taken _ hslot] at hok
    cases hok
  | nil =>
    have hadded : (p.register c q impl).pass.index.slot c q = [⟨c, q, impl⟩] := by
      rw [register_of_free _ hslot]
      simp [Index.slot_add, hslot]
    have hkept : ((p.register c q impl).pass.after calls).index.slot c q = [⟨c, q, impl⟩] :=
      (kept_slot c q (List.cons_ne_nil _ [])).after hadded fun call _ => call.tries_true
    obtain ⟨-, rfl⟩ := build_eq_ok_iff.1 hbuild
    simp only [Registry.resolve, Registry.resolveLogged, hkept]

/-- **A name marker without a key means the name of the implementation.**  The expressions of a
marker without argument are its written forms.  If the marker is a name marker, a provision under
such an expression has the same outcome in any pass as the provision under the name of its
implementation, written as a string literal: the same pass afterwards, the same result and the same
reports.  Once it is accepted and a registry is built, whatever was called in between, the binding
answers the request for the name of the implementation in any spelling.  Under any other expression
that can be read, the provision is registered under the qualifier that is read, or refused because
the implementation may not be bound to the capability. -/
theorem keyless_marker_names_the_implementation :
    (∀ e marker, Qualifier.parse e = .ok (.marked marker none) ↔ WritesAlone marker e) ∧
    (∀ (p : Pass) (a : Provision) (e : String), ∀ marker ∈ nameMarkers,
      Qualifier.parse e = .ok (.marked marker none) →
      p.provide (a.qualifiedBy e) = p.provide (a.qualifiedBy (literal a.implementation.text)) ∧
      ((p.provide (a.qualifiedBy e)).result = .ok () →
        ∀ (calls : List Call) (r : Registry),
          ((p.provide (a.qualifiedBy e)).pass.after calls).build = .ok r →
          ∀ name, TypeName.ofString name = a.implementation →
            r.resolve a.capability (some (.ofName name)) =
              .ok ⟨a.capability, some (.ofName name), a.implementation⟩)) ∧
    ∀ (p : Pass) (a : Provision) (e : String) (q : Qualifier),
      Qualifier.parse e = .ok q → (∀ marker ∈ nameMarkers, q ≠ .marked marker none) →
      p.provide (a.qualifiedBy e) =
        if a.implementsCapability then p.register a.capability (some q) a.implementation
        else
          let refusal := BindError.notAnImplementer a.implementation a.capability
          ⟨p, .error refusal, [.provisionRejected refusal]⟩ := by
  refine ⟨fun e marker => Qualifier.parse_eq_marked_none_iff, ?_, ?_⟩
  · intro p a e marker hmarker he
    have hkeyless : a.resolveKeyless (.marked marker none) = .ofName a.implementation.text :=
      if_pos (Qualifier.isKeyless_eq_true_iff.2 ⟨marker, hmarker, rfl⟩)
    have hliteral : Qualifier.parse (literal a.implementation.text) =
        .ok (.ofName a.implementation.text) :=
      Qualifier.parse_of_writesName (.tokens .literal (spaced_literal _))
    have hprovide := p.provide_qualifiedBy a he
    rw [hkeyless] at hprovide
    refine ⟨?_, ?_⟩
    · rw [hprovide, p.provide_qualifiedBy a hliteral]
      rfl
    · intro hok calls r hbuild name hname
      have hspelling : Qualifier.ofName name = .ofName a.implementation.text := by
        rw [← hname, Qualifier.ofName_inj]
        exact (canonicalSpelling_canonicalSpelling name).symm
      rw [hprovide] at hok hbuild
      rw [hspelling]
      -- A refusal is no acceptance, so only the registration is left.
      split_ifs at hok hbuild
      exact resolve_of_accepted hok hbuild
  · intro p a e q he hother
    have hkeyed : a.resolveKeyless q = q := by
      refine if_neg fun hkeyless => ?_
      obtain ⟨marker, hmarker, hq⟩ := Qualifier.isKeyless_eq_true_iff.1 hkeyless
      exact hother marker hmarker hq
    rw [p.provide_qualifiedBy a he, hkeyed]

/-- A door whose name is free-form, with characters that a literal has to escape. -/
def oddDoor : Provision := Provision.ofNames " say \"hi\" \\ @(x) " "Door"

/-- The name of the door need not be written out, with blanks and parentheses behind the marker. -/
theorem keyless_marker_names_the_implementation_oddDoor :
    ((start {}).provide (oddDoor.qualifiedBy " @ javax . inject . Named ( ) ")).pass =
      ((start {}).provide (oddDoor.qualifiedBy "\"say \\\"hi\\\" \\\\ @(x)\"")).pass ∧
    ∃ r, ((start {}).provide (oddDoor.qualifiedBy " @ javax . inject . Named ( ) ")).pass.build =
        .ok r ∧
      r.resolve (.ofString "Door") (some (.ofName " say \"hi\" \\ @(x) ")) =
        .ok ⟨.ofString "Door", some (.ofName " say \"hi\" \\ @(x) "), oddDoor.implementation⟩ := by
  have he : Qualifier.parse " @ javax . inject . Named ( ) " =
      .ok (.marked "javax.inject.Named" none) := by decide +kernel
  have hliteral : literal oddDoor.implementation.text =
      "\"say \\\"hi\\\" \\\\ @(x)\"" := by decide +kernel
  obtain ⟨-, hkeyless, -⟩ := keyless_marker_names_the_implementation
  obtain ⟨hsame, hresolve⟩ := hkeyless (start {}) oddDoor _ _ (by decide) he
  rw [hliteral] at hsame
  refine ⟨congrArg Outcome.pass hsame, _, by cbv, ?_⟩
  exact hresolve (by cbv) [] _ (by cbv) _ rfl

end Pass

end Wiring
