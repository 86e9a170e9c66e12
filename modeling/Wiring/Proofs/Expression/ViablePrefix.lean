import Wiring.Proofs.Expression.Parse

/-!
  A fault stands at the end of the longest viable prefix.

  The machine has no dead state: from every state some text makes a whole qualifier
  (`State.viable`).  So it goes on for as long as an expression can go on, and the position of a
  fault is where it stops.

  `Qualifier.Leads u s` says that the machine is in the state `s` when it has read the text `u`,
  whatever follows.  A malformed text splits at the state in which its fault is found
  (`Qualifier.Leads.exists_split_of_malformed`).

  Main statement: `Qualifier.fault_ends_viable_prefix`.
-/

namespace Wiring
open Text

/-! ## Every state can be completed -/

namespace State

/-- Some text makes a whole qualifier. -/
def Viable (s : State) : Prop := ∃ cs q, s.Accepts cs q

theorem Viable.of_step {s next : State} {c : Char} (hstep : s.step c = .ok next)
    (h : next.Viable) : s.Viable := by
  obtain ⟨cs, q, last, hrun, hfinish⟩ := h
  exact ⟨c :: cs, q, last, .cons hstep hrun, hfinish⟩

theorem viable_complete (q : Qualifier) : (complete q).Viable :=
  ⟨[], q, accepts_complete blanks_nil⟩

theorem viable_afterArgument (marker : String) (argument : Argument) :
    (afterArgument marker argument).Viable := by
  have hblank : isBlank ')' = false := by decide
  have hstep : (afterArgument marker argument).step ')' =
      .ok (.complete (.ofMarker marker (some argument))) := by simp [step, hblank]
  exact .of_step hstep (viable_complete _)

theorem Ends.viable {s : State} {place : Place} {segments : List String}
    (h : s.Ends place segments) : s.Viable := by
  cases place with
  | marker => exact ⟨[], _, h.accepts blanks_nil⟩
  | argument marker hasKey =>
    have hpart : isIdentifierPart ')' = false := by decide
    have hblank : isBlank ')' = false := by decide
    have hstep : s.step ')' =
        .ok (.complete (.ofMarker marker (some (pathArgument (pathText segments))))) :=
      (h.mark ')' hpart).trans (by simp [stepAfterSegment, hblank])
    exact .of_step hstep (viable_complete _)

theorem Awaits.viable {s : State} {place : Place} {segments : List String}
    (h : s.Awaits place segments) : s.Viable :=
  .of_step (h.start 'a' (by decide)) (ends_inSegment place segments _).viable

/-- A string needs its closing quote, and after a backslash another quote for that to escape. -/
theorem viable_inLiteral (marker : Option String) (text : String) (escaped : Bool) :
    (inLiteral marker text escaped).Viable := by
  have hclosed : ∀ text, (inLiteral marker text false).Viable := by
    intro text
    have hstep : (inLiteral marker text false).step '"' = .ok (afterLiteral marker text) := by
      simp [step]
    refine .of_step hstep ?_
    cases marker with
    | none => exact viable_complete _
    | some marker => exact viable_afterArgument marker _
  cases escaped with
  | false => exact hclosed text
  | true =>
    have hstep : (inLiteral marker text true).step '"' =
        .ok (.inLiteral marker (text.push '"') false) := rfl
    exact .of_step hstep (hclosed _)

/-- The machine is never in a state from which no qualifier can be read. -/
theorem viable (s : State) : s.Viable := by
  cases s with
  | atSegment place segments => exact (awaits_atSegment place segments).viable
  | inSegment place segments current => exact (ends_inSegment place segments current).viable
  | afterSegment place segments => exact (ends_afterSegment place segments).viable
  | opened marker => exact (awaitsArgument_opened marker).toAwaits.viable
  | keyed marker => exact (awaitsArgument_keyed marker).toAwaits.viable
  | inLiteral marker text escaped => exact viable_inLiteral marker text escaped
  | afterArgument marker argument => exact viable_afterArgument marker argument
  | complete q => exact viable_complete q

end State

/-! ## The state after a part of a text -/

theorem utf8ByteSize_ofList (cs : List Char) :
    (String.ofList cs).utf8ByteSize = byteCount cs := by
  induction cs with
  | nil => rfl
  | cons c rest ih =>
    rw [String.ofList_cons, String.utf8ByteSize_append, String.utf8ByteSize_singleton, ih,
      byteCount]

namespace Qualifier

/-- The machine reads a text up to a state, and goes on from there with whatever follows. -/
def Leads (u : String) (s : State) : Prop :=
  ∀ v, parse (u ++ v) = (s.read u.utf8ByteSize v.toList).mapError (.ofFault (u ++ v))

theorem leads_opening {b : List Char} {c : Char} {s : State} (hb : Blanks b)
    (hs : State.opening? c = some s) : Leads (String.ofList (b ++ [c])) s := by
  intro v
  have hcharacter : isBlank c = false ∧ c.utf8Size = 1 := by
    rcases State.opening?_eq_some_iff.1 hs with ⟨rfl, -⟩ | ⟨rfl, -⟩ <;> decide
  obtain ⟨hblank, hsize⟩ := hcharacter
  have htext : (String.ofList (b ++ [c]) ++ v).toList = b ++ c :: v.toList := by simp
  have hfirst : (String.ofList (b ++ [c]) ++ v).toList.dropWhile isBlank = c :: v.toList := by
    rw [htext, dropWhile_blanks_append hb hblank]
  have hleading : leadingBytes (String.ofList (b ++ [c]) ++ v) = byteCount b := by
    unfold leadingBytes
    rw [htext, List.takeWhile_append_of_pos hb]
    simp [hblank]
  have hbytes : (String.ofList (b ++ [c])).utf8ByteSize = byteCount b + 1 := by
    rw [String.ofList_append, String.utf8ByteSize_append, utf8ByteSize_ofList,
      utf8ByteSize_ofList, byteCount, hsize]
    rfl
  rw [parse_of_opening hfirst hs, hleading, hbytes]

namespace Leads

variable {u : String} {s : State}

theorem parse_singleton_append (h : Leads u s) (c : Char) (v : String) :
    parse (u ++ String.singleton c ++ v) =
      (s.read u.utf8ByteSize (c :: v.toList)).mapError
        (.ofFault (u ++ String.singleton c ++ v)) := by
  rw [String.append_assoc, h (String.singleton c ++ v), String.toList_append,
    String.toList_singleton, List.singleton_append]

theorem step {next : State} {c : Char} (h : Leads u s) (hstep : s.step c = .ok next) :
    Leads (u ++ String.singleton c) next := by
  intro v
  rw [h.parse_singleton_append, State.read, hstep, String.utf8ByteSize_append,
    String.utf8ByteSize_singleton]

theorem exists_parse_eq_ok (h : Leads u s) : ∃ w q, parse (u ++ w) = .ok q := by
  obtain ⟨cs, q, last, hrun, hfinish⟩ := s.viable
  refine ⟨String.ofList cs, q, ?_⟩
  rw [h (String.ofList cs), mapError_eq_ok_iff, State.read_eq_ok_iff, String.toList_ofList]
  exact ⟨last, hrun, hfinish⟩

/-- A character that the state does not take is a fault, whatever follows it. -/
theorem parse_of_step_eq_error (h : Leads u s) {c : Char} {fault : Fault}
    (hstep : s.step c = .error fault) (w : String) :
    parse (u ++ String.singleton c ++ w) =
      .error (.malformed (u ++ String.singleton c ++ w) u.utf8ByteSize fault) := by
  rw [h.parse_singleton_append, State.read, hstep]
  rfl

/-- A malformed text splits where the fault is found: its first part leads to a state that does not
take the next character, if there is one. -/
theorem exists_split_of_malformed {cs : List Char} {expression : String} {position : Nat}
    {fault : Fault} (h : Leads u s)
    (hparse : parse (u ++ String.ofList cs) = .error (.malformed expression position fault)) :
    expression = u ++ String.ofList cs ∧
      ∃ u' v last, u ++ String.ofList cs = u' ++ v ∧ Leads u' last ∧ u'.utf8ByteSize = position ∧
        ∀ c v', v = String.singleton c ++ v' → last.step c = .error fault := by
  induction cs generalizing u s with
  | nil =>
    rw [h (String.ofList []), String.toList_ofList, State.read] at hparse
    cases hfinish : s.finish with
    | ok q =>
      rw [hfinish] at hparse
      cases hparse
    | error found =>
      rw [hfinish] at hparse
      cases hparse
      refine ⟨rfl, u, String.ofList [], s, rfl, h, rfl, ?_⟩
      intro c v' hv
      have hlist := congrArg String.toList hv
      simp at hlist
  | cons c rest ih =>
    rw [String.ofList_cons, ← String.append_assoc] at hparse ⊢
    cases hstep : s.step c with
    | error found =>
      rw [h.parse_of_step_eq_error hstep] at hparse
      cases hparse
      refine ⟨rfl, u, String.singleton c ++ String.ofList rest, s, String.append_assoc, h, rfl, ?_⟩
      intro d v' hv
      obtain ⟨rfl, -⟩ := String.singleton_append_inj.1 hv
      exact hstep
    | ok next => exact ih (h.step hstep) hparse

end Leads

theorem exists_opening_of_malformed {e expression : String} {position : Nat} {fault : Fault}
    (h : parse e = .error (.malformed expression position fault)) :
    ∃ u s cs, Leads u s ∧ e = u ++ String.ofList cs := by
  cases hfirst : e.toList.dropWhile isBlank with
  | nil =>
    rw [parse_of_blanks hfirst] at h
    cases h
  | cons c rest =>
    cases hs : State.opening? c with
    | none =>
      rw [parse_of_name hfirst hs] at h
      cases h
    | some s =>
      have hblanks : Blanks (e.toList.takeWhile isBlank) := fun d hd => List.mem_takeWhile_imp hd
      refine ⟨_, s, rest, leads_opening hblanks hs, ?_⟩
      rw [← String.ofList_append, takeWhile_append_of_dropWhile hfirst, String.ofList_toList]

/-- **A fault stands at the end of the longest viable prefix.**  The error is about the whole
expression, and its position is the number of bytes of a part `u` that the expression starts with.
Some text completes `u` to a qualifier expression.  If the expression goes on after `u`, no text
does that together with the next character: the same fault is found at the same position, whatever
follows. -/
theorem fault_ends_viable_prefix {e expression : String} {position : Nat} {fault : Fault}
    (h : parse e = .error (.malformed expression position fault)) :
    expression = e ∧ position ≤ e.utf8ByteSize ∧
      ∃ u v : String, e = u ++ v ∧ u.utf8ByteSize = position ∧
        (∃ w q, parse (u ++ w) = .ok q) ∧
        ∀ c v', v = String.singleton c ++ v' → ∀ w,
          parse (u ++ String.singleton c ++ w) =
            .error (.malformed (u ++ String.singleton c ++ w) position fault) := by
  obtain ⟨start, s, cs, hstart, rfl⟩ := exists_opening_of_malformed h
  obtain ⟨rfl, u, v, last, htext, hlast, rfl, hfault⟩ := hstart.exists_split_of_malformed h
  refine ⟨rfl, ?_, u, v, htext, rfl, hlast.exists_parse_eq_ok, ?_⟩
  · rw [htext]
    exact Nat.le.intro String.utf8ByteSize_append.symm
  · intro c v' hv
    exact hlast.parse_of_step_eq_error (hfault c v' hv)

/-- A second word after a marker is a fault, at the four bytes of the part that can be completed. -/
theorem fault_ends_viable_prefix_twoWords :
    parse "@é b" = .error (.malformed "@é b" 4 .trailing) ∧
      ∃ u v : String, "@é b" = u ++ v ∧ u.utf8ByteSize = 4 ∧ ∃ w q, parse (u ++ w) = .ok q := by
  have hparse : parse "@é b" = .error (.malformed "@é b" 4 .trailing) := by decide +kernel
  obtain ⟨-, -, u, v, htext, hbytes, hviable, -⟩ := fault_ends_viable_prefix hparse
  exact ⟨hparse, u, v, htext, hbytes, hviable⟩

end Qualifier

end Wiring
