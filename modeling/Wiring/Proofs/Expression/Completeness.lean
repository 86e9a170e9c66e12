import Wiring.Proofs.Expression.Denotation
import Wiring.Proofs.Expression.Run

/-!
  What is an expression by the grammar is accepted by the machine.

  `State.Reads s ts P` says that the machine, from the state `s`, reads the tokens `ts` off the
  front of any text made of tokens, and is then in a state with `P`.  There is one lemma for every
  part of the grammar, and they are put in a row with `State.Reads.append`.

  The same part can be read from several states, so the lemmas ask only for what the state does with
  the next character: `State.Skips` passes over blanks, `State.Awaits` starts a segment of a path,
  and `State.Ends` goes on after one.  A path that ends and blanks after it lead to different
  states, which `State.Ends` covers both.

  Proved:
  * `State.Awaits.reads_path`: a path, from its first segment to its last;
  * `State.Reads.literal`: a string, with its escapes;
  * `State.reads_argument`: an argument, with the key `value =` or without it;
  * `State.accepts_of_denotes`: a whole expression, from its first character on.
-/

namespace Wiring
open Text

namespace State

/-! ## Reading tokens -/

/-- The machine reads some tokens off the front of a text, up to a state with a property. -/
def Reads (s : State) (ts : List Token) (P : State → Prop) : Prop :=
  ∀ us cs, Spaced (ts ++ us) cs →
    ∃ front rest last, cs = front ++ rest ∧ s.Reaches front last ∧ P last ∧ Spaced us rest

/-- The machine reads a whole text and can finish with a qualifier. -/
def Accepts (s : State) (cs : List Char) (q : Qualifier) : Prop :=
  ∃ last, s.Reaches cs last ∧ last.finish = .ok q

theorem Reads.append {s : State} {ts us : List Token} {P Q : State → Prop} (h : s.Reads ts P)
    (h' : ∀ mid, P mid → mid.Reads us Q) : s.Reads (ts ++ us) Q := by
  intro vs cs hcs
  rw [List.append_assoc] at hcs
  obtain ⟨front, rest, mid, rfl, hrun, hmid, hrest⟩ := h _ cs hcs
  obtain ⟨front', rest', last, rfl, hrun', hlast, hrest'⟩ := h' mid hmid vs rest hrest
  refine ⟨front ++ front', rest', last, ?_, hrun.append hrun', hlast, hrest'⟩
  rw [List.append_assoc]

/-- A text of nothing but the tokens is accepted if the state after them accepts blanks. -/
theorem Reads.accepts {s : State} {ts : List Token} {P : State → Prop} {cs : List Char}
    {q : Qualifier} (h : s.Reads ts P) (hcs : Spaced ts cs)
    (h' : ∀ last b, P last → Blanks b → last.Accepts b q) : s.Accepts cs q := by
  have hspaced : Spaced (ts ++ []) cs := by rwa [List.append_nil]
  obtain ⟨front, rest, mid, rfl, hrun, hmid, hrest⟩ := h [] cs hspaced
  cases hrest with
  | nil hb =>
    obtain ⟨last, hrun', hfinish⟩ := h' mid rest hmid hb
    exact ⟨last, hrun.append hrun', hfinish⟩

/-! ## Blanks -/

/-- Blanks make no difference. -/
def Skips (s : State) : Prop := ∀ c, isBlank c = true → s.step c = .ok s

theorem Skips.reaches {s : State} (h : s.Skips) {b : List Char} (hb : Blanks b) :
    s.Reaches b s := by
  induction b with
  | nil => exact .nil s
  | cons c rest ih =>
    have hc : isBlank c = true := hb c List.mem_cons_self
    have hrest : Blanks rest := fun d hd => hb d (List.mem_cons_of_mem c hd)
    exact .cons (h c hc) (ih hrest)

/-- A token is read if the machine passes over the blanks in front of it and reads its writing. -/
theorem Skips.reads {s : State} (hskips : s.Skips) {t : Token} {P : State → Prop}
    (h : ∀ w, t.Written w → ∃ last, s.Reaches w last ∧ P last) : s.Reads [t] P := by
  intro us cs hcs
  cases hcs with
  | @cons b w rest _ _ hb hw hrest =>
    obtain ⟨last, hrun, hlast⟩ := h w hw
    refine ⟨b ++ w, rest, last, ?_, (hskips.reaches hb).append hrun, hlast, hrest⟩
    rw [List.append_assoc]

theorem Skips.reads_mark {s next : State} (hskips : s.Skips) {c : Char}
    (hstep : s.step c = .ok next) : s.Reads [.mark c] (· = next) := by
  refine hskips.reads ?_
  intro w hw
  rw [hw]
  exact ⟨next, .cons hstep (.nil next), rfl⟩

/-! ## Paths -/

/-- Another segment of a path can start. -/
structure Awaits (s : State) (place : Place) (segments : List String) : Prop where
  skips : s.Skips
  start : ∀ c, isIdentifierStart c = true →
    s.step c = .ok (.inSegment place segments (String.singleton c))

/-- A segment of a path can end, and with it the path. -/
structure Ends (s : State) (place : Place) (segments : List String) : Prop where
  blank : ∀ c, isBlank c = true → s.step c = .ok (.afterSegment place segments)
  mark : ∀ c, isIdentifierPart c = false → s.step c = stepAfterSegment place segments c
  finish : s.finish = (afterSegment place segments).finish

theorem awaits_atSegment (place : Place) (segments : List String) :
    (atSegment place segments).Awaits place segments where
  skips c hc := by simp [step, hc]
  start c hc := by
    have hblank := isBlank_eq_false_of_part (isIdentifierPart_of_start hc)
    simp [step, hblank, hc]

theorem ends_afterSegment (place : Place) (segments : List String) :
    (afterSegment place segments).Ends place segments where
  blank c hc := by simp [step, stepAfterSegment, hc]
  mark c _ := rfl
  finish := rfl

theorem ends_inSegment (place : Place) (segments : List String) (current : String) :
    (inSegment place segments current).Ends place (segments ++ [current]) where
  blank c hc := by
    have hpart : isIdentifierPart c = false := by
      apply Bool.eq_false_iff.2
      intro hpart
      rw [isBlank_eq_false_of_part hpart] at hc
      cases hc
    simp [step, stepAfterSegment, hpart, hc]
  mark c hc := by simp [step, hc]
  finish := by cases place <;> rfl

theorem reaches_inSegment (place : Place) (segments : List String) {cs : List Char}
    (h : ∀ c ∈ cs, isIdentifierPart c = true) (current : String) :
    (inSegment place segments current).Reaches cs
      (.inSegment place segments (current ++ String.ofList cs)) := by
  induction cs generalizing current with
  | nil =>
    rw [String.ofList_nil, String.append_empty]
    exact .nil _
  | cons c rest ih =>
    have hc : isIdentifierPart c = true := h c List.mem_cons_self
    have hstep : (inSegment place segments current).step c =
        .ok (.inSegment place segments (current.push c)) := by simp [step, hc]
    have htext : current ++ String.ofList (c :: rest) = current.push c ++ String.ofList rest := by
      apply String.toList_injective
      simp
    rw [htext]
    exact .cons hstep (ih (fun d hd => h d (List.mem_cons_of_mem c hd)) (current.push c))

theorem Awaits.reads_identifier {s : State} {place : Place} {segments : List String}
    (h : s.Awaits place segments) (name : String) :
    s.Reads [.identifier name] (·.Ends place (segments ++ [name])) := by
  refine h.skips.reads ?_
  rintro w ⟨rfl, hname⟩
  refine ⟨.inSegment place segments name, ?_, ends_inSegment place segments name⟩
  unfold isIdentifier at hname
  cases hcs : name.toList with
  | nil =>
    rw [hcs] at hname
    cases hname
  | cons c rest =>
    rw [hcs] at hname
    simp only [isIdentifierList, Bool.and_eq_true, List.all_eq_true] at hname
    have htext : name = String.singleton c ++ String.ofList rest := by
      apply String.toList_injective
      simp [hcs]
    have hrun := reaches_inSegment place segments hname.2 (String.singleton c)
    rw [← htext] at hrun
    exact .cons (h.start c hname.1) hrun

/-- After a segment, the machine passes over blanks. -/
theorem Ends.reaches {s : State} {place : Place} {segments : List String}
    (h : s.Ends place segments) {b : List Char} (hb : Blanks b) :
    ∃ last, s.Reaches b last ∧ last.Ends place segments := by
  cases b with
  | nil => exact ⟨s, .nil s, h⟩
  | cons c rest =>
    -- The first blank leads to the state after a segment, and that state skips the others.
    have hc : isBlank c = true := hb c List.mem_cons_self
    have hrest : Blanks rest := fun d hd => hb d (List.mem_cons_of_mem c hd)
    have hafter := ends_afterSegment place segments
    have hskips : (afterSegment place segments).Skips := hafter.blank
    exact ⟨_, .cons (h.blank c hc) (hskips.reaches hrest), hafter⟩

theorem Ends.reads_mark {s next : State} {place : Place} {segments : List String}
    (h : s.Ends place segments) {c : Char} (hpart : isIdentifierPart c = false)
    (hstep : stepAfterSegment place segments c = .ok next) : s.Reads [.mark c] (· = next) := by
  intro us cs hcs
  cases hcs with
  | @cons b w rest _ _ hb hw hrest =>
    obtain ⟨last, hrun, hlast⟩ := h.reaches hb
    have hmark : last.Reaches w next := by
      rw [hw]
      exact .cons ((hlast.mark c hpart).trans hstep) (.nil next)
    exact ⟨b ++ w, rest, next, by rw [List.append_assoc], hrun.append hmark, rfl, hrest⟩

theorem Ends.reads_dot {s : State} {place : Place} {segments : List String}
    (h : s.Ends place segments) : s.Reads [.mark '.'] (· = .atSegment place segments) := by
  have hpart : isIdentifierPart '.' = false := by decide
  have hblank : isBlank '.' = false := by decide
  exact h.reads_mark hpart (by simp [stepAfterSegment, hblank])

theorem Awaits.reads_path {s : State} {place : Place} {done segments : List String}
    (h : s.Awaits place done) (hne : segments ≠ []) :
    s.Reads (pathTokens segments) (·.Ends place (done ++ segments)) := by
  induction segments generalizing s done with
  | nil => exact absurd rfl hne
  | cons name rest ih =>
    cases rest with
    | nil => exact h.reads_identifier name
    | cons next rest =>
      -- The first segment and its dot lead to a state that awaits the rest.
      have hfirst : s.Reads [.identifier name] (·.Ends place (done ++ [name])) :=
        h.reads_identifier name
      have hdotted : s.Reads ([.identifier name] ++ [.mark '.'])
          (· = .atSegment place (done ++ [name])) :=
        hfirst.append fun mid hmid => hmid.reads_dot
      have hall := hdotted.append fun mid hmid => by
        rw [hmid]
        exact ih (awaits_atSegment place (done ++ [name])) (List.cons_ne_nil next rest)
      simpa [pathTokens] using hall

/-! ## Strings -/

/-- Inside a string, the machine takes what stands for a text and adds that text. -/
theorem reaches_inLiteral (marker : Option String) {body text : List Char}
    (h : Unescapes body text) (before : String) :
    (inLiteral marker before false).Reaches body
      (.inLiteral marker (before ++ String.ofList text) false) := by
  have hpush : ∀ (before : String) (c : Char) (text : List Char),
      before ++ String.ofList (c :: text) = before.push c ++ String.ofList text := by
    intro before c text
    apply String.toList_injective
    simp
  induction h generalizing before with
  | nil =>
    rw [String.ofList_nil, String.append_empty]
    exact .nil _
  | @plain c body text hquote hslash _ ih =>
    have hstep : (inLiteral marker before false).step c =
        .ok (.inLiteral marker (before.push c) false) := by simp [step, hquote, hslash]
    rw [hpush]
    exact .cons hstep (ih (before.push c))
  | @escaped c body text _ ih =>
    have hslash : (inLiteral marker before false).step '\\' =
        .ok (.inLiteral marker before true) := by simp [step]
    have hstep : (inLiteral marker before true).step c =
        .ok (.inLiteral marker (before.push c) false) := rfl
    rw [hpush]
    exact .cons hslash (.cons hstep (ih (before.push c)))

theorem reaches_afterLiteral (marker : Option String) {body : List Char} {text : String}
    (h : Unescapes body text.toList) :
    (inLiteral marker "" false).Reaches (body ++ ['"']) (afterLiteral marker text) := by
  have hbody := reaches_inLiteral marker h ""
  rw [String.empty_append, String.ofList_toList] at hbody
  have hquote : (inLiteral marker text false).step '"' = .ok (afterLiteral marker text) := by
    simp [step]
  exact hbody.append (.cons hquote (.nil _))

theorem Reads.literal {s : State} {marker : Option String} (hskips : s.Skips)
    (hquote : s.step '"' = .ok (.inLiteral marker "" false)) (text : String) :
    s.Reads [.literal text] (· = afterLiteral marker text) := by
  refine hskips.reads ?_
  rintro w ⟨body, rfl, hbody⟩
  exact ⟨_, .cons hquote (reaches_afterLiteral marker hbody), rfl⟩

/-! ## Arguments -/

/-- An argument of a marker can start. -/
structure AwaitsArgument (s : State) (marker : String) (hasKey : Bool) : Prop
    extends s.Awaits (.argument marker hasKey) [] where
  quote : s.step '"' = .ok (.inLiteral (some marker) "" false)

theorem stepArgument_quote (marker : String) (hasKey : Bool) :
    stepArgument marker hasKey '"' = .ok (.inLiteral (some marker) "" false) := by
  simp [stepArgument]

theorem stepArgument_start (marker : String) (hasKey : Bool) {c : Char}
    (hc : isIdentifierStart c = true) : stepArgument marker hasKey c =
      .ok (.inSegment (.argument marker hasKey) [] (String.singleton c)) := by
  have hquote : c ≠ '"' := by
    intro heq
    rw [heq] at hc
    exact absurd hc (by decide)
  simp [stepArgument, hquote, hc]

theorem awaitsArgument_opened (marker : String) : (opened marker).AwaitsArgument marker false where
  skips c hc := by simp [step, hc]
  start c hc := by
    have hblank : isBlank c = false := isBlank_eq_false_of_part (isIdentifierPart_of_start hc)
    have hclosing : c ≠ ')' := by
      intro heq
      rw [heq] at hc
      exact absurd hc (by decide)
    simp [step, hblank, hclosing, stepArgument_start marker false hc]
  quote := by
    have hblank : isBlank '"' = false := by decide
    simp [step, hblank, stepArgument_quote]

theorem awaitsArgument_keyed (marker : String) : (keyed marker).AwaitsArgument marker true where
  skips c hc := by simp [step, hc]
  start c hc := by
    have hblank : isBlank c = false := isBlank_eq_false_of_part (isIdentifierPart_of_start hc)
    simp [step, hblank, stepArgument_start marker true hc]
  quote := by
    have hblank : isBlank '"' = false := by decide
    simp [step, hblank, stepArgument_quote]

theorem AwaitsArgument.reads_path_argument {s : State} {marker : String} {hasKey : Bool}
    (h : s.AwaitsArgument marker hasKey) {segments : List String} (hne : segments ≠ []) :
    s.Reads (pathTokens segments ++ [.mark ')'])
      (· = .complete (.ofMarker marker (some (pathArgument (pathText segments))))) := by
  have hpart : isIdentifierPart ')' = false := by decide
  have hblank : isBlank ')' = false := by decide
  refine (h.toAwaits.reads_path hne).append ?_
  intro mid hmid
  exact hmid.reads_mark hpart (by simp [stepAfterSegment, hblank])

theorem AwaitsArgument.reads_value {s : State} {marker : String} {hasKey : Bool}
    (h : s.AwaitsArgument marker hasKey) {ts : List Token} {a : Argument}
    (ha : DenotesValue ts a) :
    s.Reads (ts ++ [.mark ')']) (· = .complete (.ofMarker marker (some a))) := by
  cases ha with
  | literal text =>
    refine (Reads.literal h.skips h.quote text).append ?_
    intro mid hmid
    have hblank : isBlank ')' = false := by decide
    have hskips : (afterArgument marker (.text text)).Skips := by
      intro c hc
      simp [step, hc]
    rw [hmid]
    exact hskips.reads_mark (by simp [step, hblank])
  | classRef segments hne =>
    have hread := h.reads_path_argument (List.append_ne_nil_of_left_ne_nil hne ["class"])
    rwa [pathArgument_concat_class hne] at hread
  | constant segments hne hclass =>
    -- That the path is made of identifiers is known of the text, not of the tokens.
    intro us cs hcs
    have hident : Identifiers segments := identifiers_of_subset hcs (by simp)
    have hread := h.reads_path_argument hne
    rw [pathArgument_pathText hident hclass] at hread
    exact hread us cs hcs

theorem reads_key (marker : String) :
    (opened marker).Reads (keyTokens true) (· = .keyed marker) := by
  have hvalue : (opened marker).Reads [.identifier "value"]
      (·.Ends (.argument marker false) ["value"]) :=
    (awaitsArgument_opened marker).toAwaits.reads_identifier "value"
  have hpart : isIdentifierPart '=' = false := by decide
  have hblank : isBlank '=' = false := by decide
  exact hvalue.append fun mid hmid => hmid.reads_mark hpart (by simp [stepAfterSegment, hblank])

/-- The machine reads an argument and the closing parenthesis. -/
theorem reads_argument (marker : String) {ts : List Token} {a : Argument}
    (h : DenotesArgument ts a) :
    (opened marker).Reads (ts ++ [.mark ')']) (· = .complete (.ofMarker marker (some a))) := by
  cases h with
  | @intro hasKey ts _ ha =>
    cases hasKey with
    | false => exact (awaitsArgument_opened marker).reads_value ha
    | true =>
      rw [List.append_assoc]
      refine (reads_key marker).append ?_
      intro mid hmid
      rw [hmid]
      exact (awaitsArgument_keyed marker).reads_value ha

/-! ## Expressions -/

theorem skips_complete (q : Qualifier) : (complete q).Skips := by
  intro c hc
  simp [step, hc]

theorem accepts_complete {q : Qualifier} {b : List Char} (hb : Blanks b) :
    (complete q).Accepts b q :=
  ⟨.complete q, (skips_complete q).reaches hb, rfl⟩

theorem Reads.accepts_complete {s : State} {ts : List Token} {cs : List Char} {q : Qualifier}
    (h : s.Reads ts (· = .complete q)) (hcs : Spaced ts cs) : s.Accepts cs q := by
  refine h.accepts hcs ?_
  intro last b hlast hb
  rw [hlast]
  exact State.accepts_complete hb

theorem Ends.accepts {s : State} {segments : List String} (h : s.Ends .marker segments)
    {b : List Char} (hb : Blanks b) : s.Accepts b (.ofMarker (pathText segments) none) := by
  obtain ⟨last, hrun, hlast⟩ := h.reaches hb
  exact ⟨last, hrun, hlast.finish⟩

theorem reads_marker {segments : List String} (hne : segments ≠ []) :
    (atSegment .marker []).Reads (pathTokens segments ++ [.mark '('])
      (· = .opened (pathText segments)) := by
  have hpath := (awaits_atSegment .marker []).reads_path hne
  have hpart : isIdentifierPart '(' = false := by decide
  have hblank : isBlank '(' = false := by decide
  exact hpath.append fun mid hmid => hmid.reads_mark hpart (by simp [stepAfterSegment, hblank])

/-- What follows the `@` of an expression is accepted. -/
theorem accepts_marker {ts : List Token} {cs : List Char} {q : Qualifier}
    (h : Denotes (.mark '@' :: ts) q) (hcs : Spaced ts cs) :
    (atSegment .marker []).Accepts cs q := by
  cases h with
  | alone segments hne =>
    have hm := isPath_of_subset hcs hne (List.Subset.refl _)
    rw [← Qualifier.ofMarker_none hm]
    refine ((awaits_atSegment .marker []).reads_path hne).accepts hcs ?_
    intro last b hlast hb
    exact hlast.accepts hb
  | empty segments hne =>
    have hm := isPath_of_subset hcs hne (by simp)
    have hall : (atSegment .marker []).Reads ((pathTokens segments ++ [.mark '(']) ++ [.mark ')'])
        (· = .complete (.ofMarker (pathText segments) none)) := by
      refine (reads_marker hne).append ?_
      intro mid hmid
      rw [hmid]
      have hblank : isBlank ')' = false := by decide
      exact (awaitsArgument_opened _).skips.reads_mark (by simp [step, hblank])
    rw [List.append_assoc] at hall
    rw [← Qualifier.ofMarker_none hm]
    exact hall.accepts_complete hcs
  | @applied segments hne us a _ ha hq =>
    have hm := isPath_of_subset hcs hne (by simp)
    have hpaths : a.OfPaths := ha.ofPaths hcs fun t ht => by simp [ht]
    have hall : (atSegment .marker []).Reads
        ((pathTokens segments ++ [.mark '(']) ++ (us ++ [.mark ')']))
        (· = .complete (.ofMarker (pathText segments) (some a))) := by
      refine (reads_marker hne).append ?_
      intro mid hmid
      rw [hmid]
      exact reads_argument _ ha
    rw [List.append_assoc] at hall
    rw [← (denotesApplied_iff hm hpaths).1 hq]
    exact hall.accepts_complete hcs

/-- What follows the first character of an expression, blanks apart, is accepted. -/
theorem accepts_of_denotes {ts : List Token} {cs rest : List Char} {c : Char} {s : State}
    {q : Qualifier} (h : Denotes ts q) (hcs : Spaced ts cs)
    (hfirst : cs.dropWhile isBlank = c :: rest) (hs : opening? c = some s) : s.Accepts rest q := by
  rcases h.dropWhile hcs with ⟨us, rest', rfl, hat, hus⟩ | ⟨text, body, b, rfl, hquote, hbody, hb⟩
  · rw [hat] at hfirst
    cases hfirst
    cases hs
    exact accepts_marker h hus
  · rw [hquote] at hfirst
    cases hfirst
    cases hs
    obtain ⟨last, hrun, hfinish⟩ := accepts_complete (q := .ofName text) hb
    exact ⟨last, (reaches_afterLiteral none hbody).append hrun, hfinish⟩

end State

end Wiring
