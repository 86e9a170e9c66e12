import Wiring.Proofs.Planning
import Wiring.Proofs.Reachable

/-!
  Every pass and every registry is consistent, whatever was called before.

  The index of a pass has no empty entry, and every slot of it one binding, which carries the keys
  of the slot; so does the index of a registry built from it.  Such a registry has one answer to
  each request or none (`Registry.resolve_of_sound`), and never several.

  Main statement: `Session.reachable_consistent`.
-/

namespace Wiring

/-- Whether a mistake says that a request has several answers. -/
def BindError.isAmbiguous : BindError → Bool
  | .ambiguous _ _ _ => true
  | _ => false

namespace Registry

variable {r : Registry}

/-! ## Answers from a sound index -/

/-- A request is answered by the binding with its keys, or not at all. -/
theorem resolve_of_sound (h : r.index.Sound) (c : TypeName) (q : Option Qualifier) :
    (∃ impl, r.resolve c q = .ok ⟨c, q, impl⟩) ∨
      r.resolve c q = .error (.unresolved c q (r.qualifiers c)) := by
  unfold resolve resolveLogged
  cases hslot : r.index.slot c q with
  | nil => exact .inr rfl
  | cons b rest =>
    have hb : b ∈ r.index.slot c q := by simp [hslot]
    obtain ⟨hsingle, rfl, rfl⟩ := h.eq_singleton_of_mem hb
    rw [hslot] at hsingle
    rw [hsingle]
    exact .inl ⟨b.implementation, rfl⟩

theorem keys_of_resolve (h : r.index.Sound) {c : TypeName} {q : Option Qualifier} {b : Binding}
    (hb : r.resolve c q = .ok b) : b.capability = c ∧ b.qualifier = q := by
  rcases resolve_of_sound h c q with ⟨impl, hok⟩ | herror
  · rw [hok] at hb
    cases hb
    exact ⟨rfl, rfl⟩
  · rw [herror] at hb
    cases hb

theorem isAmbiguous_of_resolve (h : r.index.Sound) {c : TypeName} {q : Option Qualifier}
    {e : BindError} (he : r.resolve c q = .error e) : e.isAmbiguous = false := by
  rcases resolve_of_sound h c q with ⟨impl, hok⟩ | herror
  · rw [hok] at he
    cases he
  · rw [herror] at he
    cases he
    rfl

theorem resolveWith_eq (c : TypeName) (expression : String) :
    r.resolveWith c expression =
      match Qualifier.parse expression with
      | .ok q => r.resolve c (some q)
      | .error e => .error (.invalidQualifier e) := by
  unfold resolveWith resolveWithLogged resolve
  cases Qualifier.parse expression with
  | ok q => rfl
  | error e => rfl

theorem keys_of_resolveWith (h : r.index.Sound) {c : TypeName} {expression : String} {b : Binding}
    (hb : r.resolveWith c expression = .ok b) :
    b.capability = c ∧ ∃ q, Qualifier.parse expression = .ok q ∧ b.qualifier = some q := by
  rw [resolveWith_eq] at hb
  cases hparse : Qualifier.parse expression with
  | error e =>
    rw [hparse] at hb
    cases hb
  | ok q =>
    rw [hparse] at hb
    obtain ⟨hcapability, hqualifier⟩ := keys_of_resolve h hb
    exact ⟨hcapability, q, rfl, hqualifier⟩

theorem isAmbiguous_of_resolveWith (h : r.index.Sound) {c : TypeName} {expression : String}
    {e : BindError} (he : r.resolveWith c expression = .error e) : e.isAmbiguous = false := by
  rw [resolveWith_eq] at he
  cases hparse : Qualifier.parse expression with
  | error e' =>
    rw [hparse] at he
    cases he
    rfl
  | ok q =>
    rw [hparse] at he
    exact isAmbiguous_of_resolve h he

end Registry

namespace Session

/-- **Every pass and every registry is consistent.**  After any steps of a session, refused ones and
builds included, the index has no empty entry, every slot holds one binding, which carries the keys
of the slot, and the declared markers are in canonical spelling.  A registry built then is as sound.
It finds no request ambiguous, whether the request comes with a qualifier, with an expression or
from a component; the binding that answers a request carries just the keys that were asked for; and
the listing is in strict order, by capability and then by qualifier, none first. -/
theorem reachable_consistent (checks : Checks) (registry : Registry) (steps : List Step) :
    let s := (Progress.after checks registry steps).session
    s.pass.index.Sound ∧ (∀ marker ∈ s.pass.markers, canonicalSpelling marker = marker) ∧
    ∀ r, s.build.2.value = .ok r → r.index.Sound ∧
      (∀ c q,
        (∀ b, r.resolve c q = .ok b → b.capability = c ∧ b.qualifier = q) ∧
        ∀ e, r.resolve c q = .error e → e.isAmbiguous = false) ∧
      (∀ c expression,
        (∀ b, r.resolveWith c expression = .ok b →
          b.capability = c ∧ ∃ q, Qualifier.parse expression = .ok q ∧ b.qualifier = some q) ∧
        ∀ e, r.resolveWith c expression = .error e → e.isAmbiguous = false) ∧
      (∀ component,
        (∀ plan, r.plan component = .ok plan → ∀ a ∈ plan.accessors,
          a.binding.capability = a.accessor.capability ∧
            a.binding.qualifier = a.accessor.qualifier) ∧
        ∀ e, r.plan component = .error e → ∀ f ∈ e.errors, f.2.isAmbiguous = false) ∧
      r.bindings.Pairwise fun a b => a.compareSlots b = .lt := by
  intro s
  have hsound : s.pass.Sound := Progress.sound_after checks registry steps
  refine ⟨hsound.index, hsound.markers, ?_⟩
  intro r hbuild
  have hr : r.index.Sound := by
    rw [index_of_build hbuild]
    exact hsound.index
  refine ⟨hr, ?_, ?_, ?_, hr.pairwise_bindings⟩
  · intro c q
    exact ⟨fun b hb => Registry.keys_of_resolve hr hb,
      fun e he => Registry.isAmbiguous_of_resolve hr he⟩
  · intro c expression
    exact ⟨fun b hb => Registry.keys_of_resolveWith hr hb,
      fun e he => Registry.isAmbiguous_of_resolveWith hr he⟩
  · intro component
    constructor
    · intro plan hplan a ha
      exact Registry.keys_of_resolve hr (Registry.resolve_of_mem_plan hplan ha)
    · intro e he f hf
      obtain ⟨a, -, -, hresolve⟩ := Registry.resolve_of_mem_errors he hf
      exact Registry.isAmbiguous_of_resolve hr hresolve

/-- A door that is bound, bound again in vain, and bound under a name. -/
def twoDoors : List Step :=
  [.call (.register (.ofString "Door") none (.ofString "Oak")),
    .call (.register (.ofString "Door") none (.ofString "Elm")),
    .call (.register (.ofString "Door") (some (.named "Ash")) (.ofString "Ash"))]

/-- A refused registration leaves no second binding behind, and the request under a name is answered
by the binding under that name. -/
theorem reachable_consistent_twoDoors :
    ∃ r, (Progress.after {} {} twoDoors).session.build.2.value = .ok r ∧
      ∃ b, r.resolve (.ofString "Door") (some (.named "Ash")) = .ok b ∧
        b.qualifier = some (.named "Ash") := by
  have hbuild : (Progress.after {} {} twoDoors).session.build.2.value =
      .ok ⟨(Progress.after {} {} twoDoors).session.pass.index⟩ := by cbv
  obtain ⟨-, -, hbuilt⟩ := reachable_consistent {} {} twoDoors
  obtain ⟨-, hresolve, -⟩ := hbuilt _ hbuild
  have hdoor : (⟨(Progress.after {} {} twoDoors).session.pass.index⟩ : Registry).resolve
      (.ofString "Door") (some (.named "Ash")) =
        .ok ⟨.ofString "Door", some (.named "Ash"), .ofString "Ash"⟩ := by cbv
  exact ⟨_, hbuild, _, hdoor, ((hresolve _ _).1 _ hdoor).2⟩

end Session

end Wiring
