import Mathlib
import Wiring.Qualifier.Expression

/-!
  Runs of the machine that reads qualifier expressions.

  `State.Reaches` is a run over some characters without a fault, and `State.read_eq_ok_iff` says
  that reading succeeds exactly if such a run ends in a state that can finish.
  `Qualifier.parse_of_opening` starts the machine at the first character that is no blank.
-/

namespace Wiring
open Text

theorem mapError_eq_ok_iff {α β γ : Type} {f : α → β} {x : Except α γ} {a : γ} :
    x.mapError f = .ok a ↔ x = .ok a := by
  cases x <;> simp [Except.mapError]

namespace State

/-- The machine gets from one state to another over some characters. -/
inductive Reaches : State → List Char → State → Prop
  | nil (s : State) : Reaches s [] s
  | cons {s next last : State} {c : Char} {cs : List Char} (hstep : s.step c = .ok next)
      (h : Reaches next cs last) : Reaches s (c :: cs) last

theorem Reaches.append {s mid last : State} {cs ds : List Char} (h : s.Reaches cs mid)
    (h' : mid.Reaches ds last) : s.Reaches (cs ++ ds) last := by
  induction h with
  | nil => exact h'
  | cons hstep _ ih => exact .cons hstep (ih h')

/-- Reading succeeds if the run ends in a state that can finish, and only then. -/
theorem read_eq_ok_iff {s : State} {position : Nat} {cs : List Char} {q : Qualifier} :
    s.read position cs = .ok q ↔ ∃ last, s.Reaches cs last ∧ last.finish = .ok q := by
  induction cs generalizing s position with
  | nil =>
    unfold read
    rw [mapError_eq_ok_iff]
    constructor
    · intro hfinish
      exact ⟨s, .nil s, hfinish⟩
    · rintro ⟨last, hrun, hfinish⟩
      cases hrun
      exact hfinish
  | cons c rest ih =>
    unfold read
    cases hstep : s.step c with
    | error fault =>
      constructor
      · intro h
        cases h
      · rintro ⟨last, hrun, -⟩
        cases hrun with
        | cons hstep' _ =>
          rw [hstep] at hstep'
          cases hstep'
    | ok next =>
      rw [ih]
      constructor
      · rintro ⟨last, hrun, hfinish⟩
        exact ⟨last, .cons hstep hrun, hfinish⟩
      · rintro ⟨last, hrun, hfinish⟩
        cases hrun with
        | cons hstep' hrun =>
          rw [hstep] at hstep'
          cases hstep'
          exact ⟨last, hrun, hfinish⟩

/-- The state after the first character of an expression, if that is `@` or a quote. -/
def opening? (c : Char) : Option State :=
  if c = '@' then some (.atSegment .marker [])
  else if c = '"' then some (.inLiteral none "" false)
  else none

/-- Only `@` and a quote start the machine. -/
theorem opening?_eq_some_iff {c : Char} {s : State} :
    opening? c = some s ↔
      (c = '@' ∧ s = .atSegment .marker []) ∨ (c = '"' ∧ s = .inLiteral none "" false) := by
  unfold opening?
  by_cases hat : c = '@'
  · subst hat
    simp [eq_comm]
  · by_cases hquote : c = '"'
    · subst hquote
      simp [eq_comm]
    · simp [hat, hquote]

theorem opening?_eq_none_iff {c : Char} : opening? c = none ↔ c ≠ '@' ∧ c ≠ '"' := by
  unfold opening?
  by_cases hat : c = '@' <;> by_cases hquote : c = '"' <;> simp [hat, hquote]

end State

namespace Qualifier

theorem parse_of_blanks {e : String} (h : e.toList.dropWhile isBlank = []) :
    parse e = .error .empty := by
  unfold parse
  rw [h]

theorem parse_of_opening {e : String} {c : Char} {rest : List Char} {s : State}
    (h : e.toList.dropWhile isBlank = c :: rest) (hs : State.opening? c = some s) :
    parse e = (s.read (leadingBytes e + 1) rest).mapError (.ofFault e) := by
  unfold parse
  rw [h]
  rcases State.opening?_eq_some_iff.1 hs with ⟨rfl, rfl⟩ | ⟨rfl, rfl⟩ <;> rfl

theorem parse_of_name {e : String} {c : Char} {rest : List Char}
    (h : e.toList.dropWhile isBlank = c :: rest) (hs : State.opening? c = none) :
    parse e = .ok (.ofName e) := by
  obtain ⟨hat, hquote⟩ := State.opening?_eq_none_iff.1 hs
  unfold parse
  rw [h]
  split
  · rename_i heq
    cases heq
  · rename_i heq
    cases heq
    exact absurd rfl hat
  · rename_i heq
    cases heq
    exact absurd rfl hquote
  · rfl

/-- An expression that starts with `@` or a quote denotes a qualifier exactly if the machine gets
to a state that can finish with it. -/
theorem parse_eq_ok_iff_reaches {e : String} {c : Char} {rest : List Char} {s : State}
    (h : e.toList.dropWhile isBlank = c :: rest) (hs : State.opening? c = some s)
    {q : Qualifier} :
    parse e = .ok q ↔ ∃ last, s.Reaches rest last ∧ last.finish = .ok q := by
  rw [parse_of_opening h hs, mapError_eq_ok_iff, State.read_eq_ok_iff]

end Qualifier

end Wiring
