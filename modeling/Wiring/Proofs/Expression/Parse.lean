import Wiring.Proofs.Expression.Completeness
import Wiring.Proofs.Expression.Soundness

/-!
  Reading a qualifier expression, against the grammar.

  Soundness and completeness of the machine meet here: an expression that starts with `@` or a quote
  is read as a qualifier exactly if it expresses that qualifier by the grammar
  (`Qualifier.parse_eq_ok_iff_expresses`).  The machine gives one answer, so the grammar is
  unambiguous (`Expresses.unique`).

  Main statement: `Qualifier.parse_reads_grammar`, which says of every text what it is read as.
-/

namespace Wiring
open Text

theorem takeWhile_append_of_dropWhile {cs rest : List Char} {c : Char}
    (h : cs.dropWhile isBlank = c :: rest) : cs.takeWhile isBlank ++ [c] ++ rest = cs := by
  have hall := List.takeWhile_append_dropWhile (p := isBlank) (l := cs)
  rw [h] at hall
  rw [List.append_assoc]
  exact hall

theorem exists_dropWhile_of_find? {cs : List Char} {c : Char}
    (h : cs.find? (fun d => !isBlank d) = some c) :
    ∃ rest, cs.dropWhile isBlank = c :: rest := by
  rw [List.find?_eq_head?_dropWhile_not] at h
  simp only [Bool.not_not] at h
  exact List.head?_eq_some_iff.1 h

theorem Expresses.opening {e : String} {q : Qualifier} (h : Expresses e q) :
    ∃ c rest s, e.toList.dropWhile isBlank = c :: rest ∧ State.opening? c = some s := by
  obtain ⟨ts, hdenotes, hspaced⟩ := h
  rcases hdenotes.dropWhile hspaced with ⟨us, rest, -, hat, -⟩ | ⟨text, body, b, -, hquote, -, -⟩
  · exact ⟨'@', rest, _, hat, rfl⟩
  · exact ⟨'"', _, _, hquote, rfl⟩

namespace Qualifier

/-- A text that starts with `@` or a quote is read as what it expresses by the grammar. -/
theorem parse_eq_ok_iff_expresses {e : String} {c : Char} {rest : List Char} {s : State}
    (h : e.toList.dropWhile isBlank = c :: rest) (hs : State.opening? c = some s)
    {q : Qualifier} : parse e = .ok q ↔ Expresses e q := by
  rw [parse_eq_ok_iff_reaches h hs]
  constructor
  · rintro ⟨last, hrun, hfinish⟩
    have hblanks : Blanks (e.toList.takeWhile isBlank) := fun d hd => List.mem_takeWhile_imp hd
    have hlast : last.Has (e.toList.takeWhile isBlank ++ [c] ++ rest) :=
      (State.has_opening hblanks hs).reaches hrun
    rw [takeWhile_append_of_dropWhile h] at hlast
    exact hlast.finish hfinish
  · rintro ⟨ts, hdenotes, hspaced⟩
    exact State.accepts_of_denotes hdenotes hspaced h hs

theorem parse_of_expresses {e : String} {q : Qualifier} (h : Expresses e q) :
    parse e = .ok q := by
  obtain ⟨c, rest, s, hfirst, hs⟩ := h.opening
  exact (parse_eq_ok_iff_expresses hfirst hs).2 h

/-- What is read of a text is the whole text as a name, or what it expresses by the grammar. -/
theorem eq_ofName_or_expresses_of_parse {e : String} {q : Qualifier} (h : parse e = .ok q) :
    q = ofName e ∨ Expresses e q := by
  cases hfirst : e.toList.dropWhile isBlank with
  | nil =>
    rw [parse_of_blanks hfirst] at h
    cases h
  | cons c rest =>
    cases hs : State.opening? c with
    | none =>
      rw [parse_of_name hfirst hs] at h
      exact .inl (Except.ok.inj h).symm
    | some s => exact .inr ((parse_eq_ok_iff_expresses hfirst hs).1 h)

theorem parse_eq_empty_iff {e : String} : parse e = .error .empty ↔ Blanks e.toList := by
  unfold Blanks
  rw [← List.dropWhile_eq_nil_iff]
  constructor
  · intro hempty
    cases hfirst : e.toList.dropWhile isBlank with
    | nil => rfl
    | cons c rest =>
      cases hs : State.opening? c with
      | none =>
        rw [parse_of_name hfirst hs] at hempty
        cases hempty
      | some s =>
        rw [parse_of_opening hfirst hs] at hempty
        cases hread : s.read (leadingBytes e + 1) rest with
        | error found =>
          rw [hread] at hempty
          cases hempty
        | ok q =>
          rw [hread] at hempty
          cases hempty
  · exact parse_of_blanks

theorem parse_eq_malformed_of_opening {e : String} {c : Char} {rest : List Char} {s : State}
    (h : e.toList.dropWhile isBlank = c :: rest) (hs : State.opening? c = some s)
    (hnone : ∀ q, parse e ≠ .ok q) :
    ∃ position fault, parse e = .error (.malformed e position fault) := by
  rw [parse_of_opening h hs] at hnone ⊢
  cases hread : s.read (leadingBytes e + 1) rest with
  | error found => exact ⟨found.1, found.2, rfl⟩
  | ok q =>
    rw [hread] at hnone
    exact absurd rfl (hnone q)

end Qualifier

/-- The grammar is unambiguous: a text expresses one qualifier at most. -/
theorem Expresses.unique {e : String} {q q' : Qualifier} (h : Expresses e q)
    (h' : Expresses e q') : q = q' := by
  have heq := (Qualifier.parse_of_expresses h).symm.trans (Qualifier.parse_of_expresses h')
  exact Except.ok.inj heq

/-- **Expressions are read by the grammar.**  A text of blanks only is empty.  Of any other, the
first character that is no blank decides: a text that starts with neither `@` nor a quote is a name
as a whole, and one that does is read as the qualifier that it expresses by the grammar, wherever
its blanks stand, and is malformed if it expresses none. -/
theorem Qualifier.parse_reads_grammar (e : String) :
    (parse e = .error .empty ↔ ∀ c ∈ e.toList, isBlank c = true) ∧
    (∀ c, e.toList.find? (fun d => !isBlank d) = some c → c ≠ '@' → c ≠ '"' →
      parse e = .ok (.named (canonicalSpelling e))) ∧
    ∀ c, e.toList.find? (fun d => !isBlank d) = some c → c = '@' ∨ c = '"' →
      (∀ q, parse e = .ok q ↔ Expresses e q) ∧
      ((∀ q, ¬ Expresses e q) →
        ∃ position fault, parse e = .error (.malformed e position fault)) := by
  refine ⟨parse_eq_empty_iff, ?_, ?_⟩
  · intro c hc hat hquote
    obtain ⟨rest, hfirst⟩ := exists_dropWhile_of_find? hc
    exact parse_of_name hfirst (State.opening?_eq_none_iff.2 ⟨hat, hquote⟩)
  · intro c hc hopens
    obtain ⟨rest, hfirst⟩ := exists_dropWhile_of_find? hc
    obtain ⟨s, hs⟩ : ∃ s, State.opening? c = some s := by
      rcases hopens with rfl | rfl
      · exact ⟨_, rfl⟩
      · exact ⟨_, rfl⟩
    have hiff : ∀ q, parse e = .ok q ↔ Expresses e q := fun q =>
      parse_eq_ok_iff_expresses hfirst hs
    refine ⟨hiff, ?_⟩
    intro hnone
    exact parse_eq_malformed_of_opening hfirst hs fun q hq => hnone q ((hiff q).1 hq)

/-- A marker with a key and blanks is an expression by the grammar, since it is read as one. -/
theorem Qualifier.parse_reads_grammar_marker :
    Expresses " @ a . b ( value = \"c\" ) " (.marked "a.b" (some (.text "c"))) :=
  (((parse_reads_grammar _).2.2 '@' (by decide) (.inl rfl)).1 _).1 (by decide +kernel)

end Wiring
