import Wiring.Proofs.Expression.RoundTrip
import Wiring.Session

/-!
  Two ways to the qualifier of a marker: reading an expression, and the constructors.

  The constructors bring a path into canonical spelling by splitting it at its dots and trimming the
  parts, while an expression is read token by token.  `spaced_pathTokens_iff` says that both take
  the same texts for a path and find the same segments in it, so it does not matter on which way a
  spelling of a marker has come.

  Main statement: `Qualifier.parse_agrees_with_ofMarker`.
-/

namespace Wiring
open Text

/-! ## Blanks at the ends of a text -/

theorem trim_blanks_append {b : List Char} (hb : Blanks b) (cs : List Char) :
    trim (b ++ cs) = trim cs := by
  unfold trim
  rw [List.dropWhile_append_of_pos hb]

theorem trim_of_blanks {b : List Char} (hb : Blanks b) : trim b = [] := by
  have h := trim_blanks_append hb []
  rwa [List.append_nil] at h

theorem trim_append_blanks {b : List Char} (hb : Blanks b) (cs : List Char) :
    trim (cs ++ b) = trim cs := by
  by_cases hcs : Blanks cs
  · rw [trim_of_blanks (blanks_append hcs hb), trim_of_blanks hcs]
  · have hfront : (cs ++ b).dropWhile isBlank = cs.dropWhile isBlank ++ b := by
      rw [List.dropWhile_append, if_neg]
      rw [List.isEmpty_iff, List.dropWhile_eq_nil_iff]
      exact hcs
    have hrev : Blanks b.reverse := fun c hc => hb c (List.mem_reverse.1 hc)
    unfold trim
    rw [hfront, List.reverse_append, List.dropWhile_append_of_pos hrev]

/-- A text is what it is trimmed to, with blanks at the ends. -/
theorem exists_blanks_trim (cs : List Char) :
    ∃ b b', Blanks b ∧ Blanks b' ∧ cs = b ++ (trim cs ++ b') := by
  have htake : ∀ ds : List Char, Blanks (ds.takeWhile isBlank) :=
    fun ds c hc => List.mem_takeWhile_imp hc
  have hback := List.takeWhile_append_dropWhile (p := isBlank) (l := (cs.dropWhile isBlank).reverse)
  have hrest : cs.dropWhile isBlank =
      trim cs ++ ((cs.dropWhile isBlank).reverse.takeWhile isBlank).reverse := by
    apply List.reverse_injective
    unfold trim
    rw [List.reverse_append, List.reverse_reverse, List.reverse_reverse, hback]
  refine ⟨cs.takeWhile isBlank, ((cs.dropWhile isBlank).reverse.takeWhile isBlank).reverse,
    htake cs, ?_, ?_⟩
  · intro c hc
    exact htake _ c (List.mem_reverse.1 hc)
  · rw [← hrest, List.takeWhile_append_dropWhile]

theorem dot_not_mem_blanks {b : List Char} (hb : Blanks b) : '.' ∉ b := by
  intro hdot
  exact absurd (hb '.' hdot) (by decide)

/-! ## The parts of a text between its dots -/

/-- Blanks in front of a text stay with its first part, which is trimmed. -/
theorem map_trim_splitOn_blanks_append {b : List Char} (hb : Blanks b) (cs : List Char) :
    ((b ++ cs).splitOn '.').map trim = (cs.splitOn '.').map trim := by
  have hb' := dot_not_mem_blanks hb
  by_cases hdot : '.' ∈ cs
  · obtain ⟨front, rest, rfl, hfront⟩ := List.eq_append_cons_of_mem hdot
    have hfront' : '.' ∉ b ++ front := by simp [hb', hfront]
    rw [← List.append_assoc, List.splitOn_append_cons_self_of_not_mem hfront',
      List.splitOn_append_cons_self_of_not_mem hfront, List.map_cons, List.map_cons,
      trim_blanks_append hb]
  · have hall : '.' ∉ b ++ cs := by simp [hb', hdot]
    rw [List.splitOn_eq_singleton hall, List.splitOn_eq_singleton hdot, List.map_singleton,
      List.map_singleton, trim_blanks_append hb]

theorem map_trim_splitOn_append_blanks {b : List Char} (hb : Blanks b) (cs : List Char) :
    ((cs ++ b).splitOn '.').map trim = (cs.splitOn '.').map trim := by
  have hb' := dot_not_mem_blanks hb
  by_cases hdot : '.' ∈ cs
  · -- The last dot of a text is the first one of the text read backwards.
    obtain ⟨last, front, hrev, hlast⟩ := List.eq_append_cons_of_mem (List.mem_reverse.2 hdot)
    have hcs : cs = front.reverse ++ '.' :: last.reverse := by
      rw [← List.reverse_reverse cs, hrev]
      simp
    have hlast' : '.' ∉ last.reverse := by simpa using hlast
    have hall : '.' ∉ last.reverse ++ b := by simp [hb', hlast]
    rw [hcs, List.append_assoc, List.cons_append, List.splitOn_append_cons_self,
      List.splitOn_append_cons_self, List.splitOn_eq_singleton hall,
      List.splitOn_eq_singleton hlast', List.map_append, List.map_append, List.map_singleton,
      List.map_singleton, trim_append_blanks hb]
  · have hall : '.' ∉ cs ++ b := by simp [hb', hdot]
    rw [List.splitOn_eq_singleton hall, List.splitOn_eq_singleton hdot, List.map_singleton,
      List.map_singleton, trim_append_blanks hb]

/-- The parts are the same, whether the text is trimmed first or not. -/
theorem dottedParts_eq (cs : List Char) : dottedParts cs = (cs.splitOn '.').map trim := by
  obtain ⟨b, b', hb, hb', hcs⟩ := exists_blanks_trim cs
  have hends : (cs.splitOn '.').map trim = ((b ++ (trim cs ++ b')).splitOn '.').map trim :=
    congrArg (fun ds => (ds.splitOn '.').map trim) hcs
  rw [hends, map_trim_splitOn_blanks_append hb, map_trim_splitOn_append_blanks hb']
  rfl

theorem dottedParts_of_dot_not_mem {cs : List Char} (h : '.' ∉ cs) :
    dottedParts cs = [trim cs] := by
  rw [dottedParts_eq, List.splitOn_eq_singleton h, List.map_singleton]

theorem dottedParts_append_cons {front : List Char} (h : '.' ∉ front) (rest : List Char) :
    dottedParts (front ++ '.' :: rest) = trim front :: dottedParts rest := by
  rw [dottedParts_eq, List.splitOn_append_cons_self_of_not_mem h, List.map_cons, dottedParts_eq]

/-! ## Spellings of a path -/

/-- A text is a path, with any blanks around its segments. -/
def IsSpelling (s : String) : Prop :=
  ∀ part ∈ s.toList.splitOn '.', isIdentifierList (trim part) = true

instance (s : String) : Decidable (IsSpelling s) := inferInstanceAs (Decidable (∀ _ ∈ _, _))

/-- The parts of a text between its dots, as strings. -/
def pathSegments (s : String) : List String := (dottedParts s.toList).map String.ofList

theorem map_toList_pathSegments (s : String) :
    (pathSegments s).map String.toList = dottedParts s.toList := by
  unfold pathSegments
  rw [List.map_map]
  refine (List.map_congr_left fun part _ => ?_).trans (List.map_id _)
  exact String.toList_ofList

theorem pathSegments_ne_nil (s : String) : pathSegments s ≠ [] := by
  unfold pathSegments
  rw [dottedParts_eq]
  simp [List.splitOn_ne_nil]

/-- A text spells a path exactly if its parts are identifiers. -/
theorem isSpelling_iff_identifiers {s : String} : IsSpelling s ↔ Identifiers (pathSegments s) := by
  unfold IsSpelling Identifiers pathSegments isIdentifier
  rw [dottedParts_eq]
  simp

theorem IsSpelling.isPath {s : String} (h : IsSpelling s) : IsPath (pathText (pathSegments s)) :=
  ⟨pathSegments s, pathSegments_ne_nil s, isSpelling_iff_identifiers.1 h, rfl⟩

/-- The canonical spelling of a path is its segments with a dot between any two. -/
theorem IsSpelling.canonicalSpelling_eq {s : String} (h : IsSpelling s) :
    canonicalSpelling s = pathText (pathSegments s) := by
  apply String.toList_injective
  rw [toList_canonicalSpelling, toList_pathText, map_toList_pathSegments]
  unfold canonicalList
  by_cases hdot : '.' ∈ s.toList
  · obtain ⟨front, rest, hs, hfront⟩ := List.eq_append_cons_of_mem hdot
    have hpath : IsDottedPath (dottedParts s.toList) := by
      constructor
      · have hrest := List.length_pos_iff.2 (List.splitOn_ne_nil '.' rest)
        rw [hs, dottedParts_append_cons hfront, dottedParts_eq, List.length_cons, List.length_map]
        omega
      · rw [dottedParts_eq]
        simpa [IsSpelling] using h
    rw [if_pos hpath]
  · have hone : ¬ IsDottedPath [trim s.toList] := fun hpath => by simp [IsDottedPath] at hpath
    rw [dottedParts_of_dot_not_mem hdot, if_neg hone]
    simp [joinDotted]

/-! ## Spellings and tokens -/

/-- An identifier with blanks around it is what is trimmed to the identifier. -/
theorem spaced_identifier_iff {name : String} {cs : List Char} :
    Spaced [.identifier name] cs ↔ isIdentifier name = true ∧ trim cs = name.toList := by
  constructor
  · intro h
    cases h with
    | @cons b w rest _ _ hb hw hend =>
      obtain ⟨rfl, hname⟩ := hw
      cases hend with
      | nil hb' =>
        refine ⟨hname, ?_⟩
        rw [trim_blanks_append hb, trim_append_blanks hb']
        exact trim_eq_self_of_forall (isBlank_eq_false_of_mem hname)
  · rintro ⟨hname, htrim⟩
    obtain ⟨b, b', hb, hb', hcs⟩ := exists_blanks_trim cs
    rw [hcs, htrim]
    exact .cons hb ⟨rfl, hname⟩ (.nil hb')

theorem dot_not_mem_of_spaced {name : String} {cs : List Char}
    (h : Spaced [.identifier name] cs) : '.' ∉ cs := by
  obtain ⟨hname, htrim⟩ := spaced_identifier_iff.1 h
  obtain ⟨b, b', hb, hb', hcs⟩ := exists_blanks_trim cs
  rw [hcs, htrim]
  simp [dot_not_mem_blanks hb, dot_not_mem_blanks hb', dot_not_mem_toList hname]

theorem Spaced.path_cons_cons {name next : String} {rest : List String} {cs : List Char}
    (h : Spaced (pathTokens (name :: next :: rest)) cs) :
    ∃ front back, cs = front ++ '.' :: back ∧ Spaced [.identifier name] front ∧
      Spaced (pathTokens (next :: rest)) back := by
  cases h with
  | @cons b w _ _ _ hb hw h =>
    cases h with
    | @cons b' w' back _ _ hb' hdot h =>
      refine ⟨b ++ (w ++ b'), back, ?_, .cons hb hw (.nil hb'), h⟩
      rw [hdot]
      simp

theorem Spaced.mem_of_mark_mem {ts : List Token} {cs : List Char} (h : Spaced ts cs) {c : Char}
    (hc : .mark c ∈ ts) : c ∈ cs := by
  induction h with
  | nil hb => cases hc
  | @cons b w rest u us hb hw _ ih =>
    rcases List.mem_cons.1 hc with rfl | hc
    · rw [hw]
      simp
    · simp [ih hc]

theorem dottedParts_of_spaced {segments : List String} (hne : segments ≠ []) {cs : List Char}
    (h : Spaced (pathTokens segments) cs) : dottedParts cs = segments.map String.toList := by
  induction segments generalizing cs with
  | nil => exact absurd rfl hne
  | cons name rest ih =>
    cases rest with
    | nil =>
      rw [dottedParts_of_dot_not_mem (dot_not_mem_of_spaced h), (spaced_identifier_iff.1 h).2]
      rfl
    | cons next rest =>
      obtain ⟨front, back, rfl, hfront, hback⟩ := h.path_cons_cons
      rw [dottedParts_append_cons (dot_not_mem_of_spaced hfront),
        (spaced_identifier_iff.1 hfront).2, ih (List.cons_ne_nil next rest) hback]
      rfl

/-- Parts that are identifiers, blanks apart, are the tokens of a path when dots stand between
them. -/
theorem spaced_joinDotted {parts : List (List Char)}
    (h : ∀ part ∈ parts, isIdentifierList (trim part) = true) :
    Spaced (pathTokens (parts.map fun part => String.ofList (trim part))) (joinDotted parts) := by
  induction parts with
  | nil => exact .nil blanks_nil
  | cons part rest ih =>
    have hpart : Spaced [.identifier (String.ofList (trim part))] part := by
      rw [spaced_identifier_iff]
      simpa [isIdentifier] using h part List.mem_cons_self
    have hrest := ih fun p hp => h p (List.mem_cons_of_mem part hp)
    cases rest with
    | nil => simpa [joinDotted, pathTokens] using hpart
    | cons next rest =>
      have hall := (hpart.concat_mark '.').append hrest
      rw [joinDotted, List.intercalate_cons_of_ne_nil (List.cons_ne_nil next rest)]
      exact hall

/-- The tokens of a path can be read in a text exactly if it spells that path. -/
theorem spaced_pathTokens_iff {segments : List String} (hne : segments ≠ []) {s : String} :
    Spaced (pathTokens segments) s.toList ↔ IsSpelling s ∧ pathSegments s = segments := by
  constructor
  · intro h
    have hparts : pathSegments s = segments := by
      unfold pathSegments
      rw [dottedParts_of_spaced hne h, List.map_map]
      refine (List.map_congr_left fun name _ => ?_).trans (List.map_id _)
      exact String.ofList_toList
    refine ⟨?_, hparts⟩
    rw [isSpelling_iff_identifiers, hparts]
    exact identifiers_of_subset h (List.Subset.refl _)
  · rintro ⟨hs, rfl⟩
    have h := spaced_joinDotted hs
    rw [joinDotted, List.intercalate_splitOn] at h
    unfold pathSegments
    rw [dottedParts_eq, List.map_map]
    exact h

theorem IsSpelling.append_class {n : String} (h : IsSpelling n) :
    IsSpelling (n ++ ".class") ∧ pathSegments (n ++ ".class") = pathSegments n ++ ["class"] := by
  have hclass : ['c', 'l', 'a', 's', 's'].splitOn '.' = [['c', 'l', 'a', 's', 's']] := by decide
  have hparts : (n ++ ".class").toList.splitOn '.' =
      n.toList.splitOn '.' ++ [['c', 'l', 'a', 's', 's']] := by
    rw [String.toList_append, ← hclass]
    exact List.splitOn_append_cons_self _ _
  constructor
  · intro part hpart
    rw [hparts] at hpart
    rcases List.mem_append.1 hpart with hpart | hpart
    · exact h part hpart
    · rw [List.mem_singleton.1 hpart]
      decide +kernel
  · unfold pathSegments
    rw [dottedParts_eq, hparts, dottedParts_eq, List.map_append, List.map_append]
    rfl

/-! ## Arguments, with their key and without it -/

/-- Nothing, or the key `value =` of an argument with any blanks around its two words. -/
def IsKey (key : String) : Prop :=
  key = "" ∨ ∃ b b' b'', Blanks b ∧ Blanks b' ∧ Blanks b'' ∧
    key.toList = b ++ "value".toList ++ b' ++ "=".toList ++ b''

theorem IsKey.exists_spaced {key : String} (h : IsKey key) :
    ∃ hasKey, Spaced (keyTokens hasKey) key.toList := by
  rcases h with rfl | ⟨b, b', b'', hb, hb', hb'', hkey⟩
  · exact ⟨false, .nil blanks_nil⟩
  · have hvalue : Spaced [.identifier "value"] "value".toList :=
      spaced_singleton ⟨rfl, by decide⟩
    have hmark : Spaced [.mark '='] ('=' :: b'') := by
      simpa using (spaced_singleton (t := .mark '=') rfl).append (.nil hb'')
    have hall := (hvalue.blanks_append hb).append (hmark.blanks_append hb')
    refine ⟨true, ?_⟩
    rw [hkey]
    simpa [keyTokens] using hall

namespace Qualifier

/-! ## Constructors and spellings -/

/-- The constructor looks at the canonical spellings only. -/
theorem ofMarker_congr {m m' : String} (hm : canonicalSpelling m = canonicalSpelling m')
    {a a' : Option Argument} (ha : a.map Argument.canonical = a'.map Argument.canonical) :
    ofMarker m a = ofMarker m' a' := by
  unfold ofMarker
  rw [hm, ha]

theorem ofMarker_pathText {m : String} (hm : IsSpelling m) (a : Option Argument) :
    ofMarker (pathText (pathSegments m)) a = ofMarker m a := by
  refine ofMarker_congr ?_ rfl
  rw [← hm.canonicalSpelling_eq, canonicalSpelling_canonicalSpelling]

theorem ofMarker_classRef_pathText {n : String} (hn : IsSpelling n) (m : String) :
    ofMarker m (some (.classRef (pathText (pathSegments n)))) =
      ofMarker m (some (.classRef n)) := by
  refine ofMarker_congr rfl ?_
  simp only [Option.map_some, Argument.canonical]
  rw [← hn.canonicalSpelling_eq, canonicalSpelling_canonicalSpelling]

theorem ofMarker_constant_pathText {p : String} (hp : IsSpelling p) (m : String) :
    ofMarker m (some (.constant (pathText (pathSegments p)))) =
      ofMarker m (some (.constant p)) := by
  refine ofMarker_congr rfl ?_
  simp only [Option.map_some, Argument.canonical]
  rw [← hp.canonicalSpelling_eq, canonicalSpelling_canonicalSpelling]

/-! ## Reading the spellings of a marker -/

theorem expresses_alone {m : String} (hm : IsSpelling m) :
    Expresses ("@" ++ m) (ofMarker m none) := by
  have hne := pathSegments_ne_nil m
  rw [← ofMarker_pathText hm, ofMarker_none hm.isPath]
  exact ⟨_, .alone (pathSegments m) hne, spaced_at ((spaced_pathTokens_iff hne).2 ⟨hm, rfl⟩)⟩

theorem expresses_empty {m : String} (hm : IsSpelling m) :
    Expresses ("@" ++ m ++ "()") (ofMarker m none) := by
  have hne := pathSegments_ne_nil m
  have hat := spaced_at ((spaced_pathTokens_iff hne).2 ⟨hm, rfl⟩)
  rw [← ofMarker_pathText hm, ofMarker_none hm.isPath]
  refine ⟨_, .empty (pathSegments m) hne, ?_⟩
  simpa using (hat.concat_mark '(').concat_mark ')'

theorem expresses_keyed {m key argument : String} (hm : IsSpelling m) (hkey : IsKey key)
    {ts : List Token} {a : Argument} (ha : DenotesValue ts a)
    (hargument : Spaced ts argument.toList) :
    Expresses ("@" ++ m ++ "(" ++ key ++ argument ++ ")") (ofMarker m (some a)) := by
  have hne := pathSegments_ne_nil m
  have hpaths : a.OfPaths := ha.ofPaths hargument (List.Subset.refl _)
  have hq := (denotesApplied_iff hm.isPath hpaths).2 (ofMarker_pathText hm (some a))
  obtain ⟨hasKey, hkey⟩ := hkey.exists_spaced
  exact expresses_applied hne ((spaced_pathTokens_iff hne).2 ⟨hm, rfl⟩) hkey ha hargument hq

theorem parse_classRef {m key n : String} (hm : IsSpelling m) (hkey : IsKey key)
    (hn : IsSpelling n) :
    parse ("@" ++ m ++ "(" ++ key ++ n ++ ".class)") = .ok (ofMarker m (some (.classRef n))) := by
  have hne := pathSegments_ne_nil n
  have hclass : Spaced (pathTokens (pathSegments n ++ ["class"])) (n ++ ".class").toList :=
    (spaced_pathTokens_iff (by simp)).2 hn.append_class
  have h := expresses_keyed hm hkey (.classRef (pathSegments n) hne) hclass
  rw [ofMarker_classRef_pathText hn] at h
  have htext : "@" ++ m ++ "(" ++ key ++ n ++ ".class)" =
      "@" ++ m ++ "(" ++ key ++ (n ++ ".class") ++ ")" := by
    apply String.toList_injective
    simp
  rw [htext]
  exact parse_of_expresses h

theorem parse_constant {m key p : String} (hm : IsSpelling m) (hkey : IsKey key)
    (hp : IsSpelling p) (hclass : ∀ name, canonicalSpelling p ≠ name ++ ".class") :
    parse ("@" ++ m ++ "(" ++ key ++ p ++ ")") = .ok (ofMarker m (some (.constant p))) := by
  have hne := pathSegments_ne_nil p
  rw [hp.canonicalSpelling_eq] at hclass
  have hother := (forall_pathText_ne_iff (isSpelling_iff_identifiers.1 hp)).1 hclass
  have hpath := (spaced_pathTokens_iff hne).2 ⟨hp, rfl⟩
  have h := expresses_keyed hm hkey (.constant (pathSegments p) hne hother) hpath
  rw [ofMarker_constant_pathText hp] at h
  exact parse_of_expresses h

theorem parse_text {m key : String} (hm : IsSpelling m) (hkey : IsKey key) (t : String) :
    parse ("@" ++ m ++ "(" ++ key ++ literal t ++ ")") = .ok (ofMarker m (some (.text t))) :=
  parse_of_expresses (expresses_keyed hm hkey (.literal t) (spaced_literal t))

/-! ## What is read is a spelling -/

/-- A text that is read behind an `@`, without an argument, spells a path. -/
theorem isSpelling_of_parse {s : String} (hopen : '(' ∉ s.toList) {q : Qualifier}
    (h : parse ("@" ++ s) = .ok q) :
    IsSpelling s ∧ q = .marked (canonicalSpelling s) none := by
  have hfirst : ("@" ++ s).toList.dropWhile isBlank = '@' :: s.toList := by
    rw [String.toList_append]
    exact dropWhile_blanks_append blanks_nil (by decide)
  obtain ⟨ts, hdenotes, hspaced⟩ := (parse_eq_ok_iff_expresses hfirst rfl).1 h
  have hrest := hdenotes.dropWhile hspaced
  rw [hfirst] at hrest
  rcases hrest with ⟨us, rest, rfl, heq, hus⟩ | ⟨_, _, _, -, heq, -, -⟩
  · obtain ⟨-, rfl⟩ := List.cons.inj heq
    have hmark : .mark '(' ∉ us := fun hmem => hopen (hus.mem_of_mark_mem hmem)
    cases hdenotes with
    | alone segments hne =>
      obtain ⟨hs, rfl⟩ := (spaced_pathTokens_iff hne).1 hus
      exact ⟨hs, by rw [hs.canonicalSpelling_eq]⟩
    | empty segments hne => simp at hmark
    | applied segments hne ha hq => simp at hmark
  · exact absurd (List.cons.inj heq).1 (by decide)

/-- **Reading an expression agrees with the constructors.**  In whatever spelling a marker stands
behind an `@`, with or without an argument, the qualifier is the one that the constructor makes from
the same spelling.  And a text without parenthesis that is read behind an `@` spells a path, so
declaring the marker under that spelling declares the one that the qualifier refers to. -/
theorem parse_agrees_with_ofMarker :
    (∀ m, IsSpelling m →
      parse ("@" ++ m) = .ok (ofMarker m none) ∧
      parse ("@" ++ m ++ "()") = .ok (ofMarker m none) ∧
      ∀ key, IsKey key →
        (∀ n, IsSpelling n →
          parse ("@" ++ m ++ "(" ++ key ++ n ++ ".class)") =
            .ok (ofMarker m (some (.classRef n)))) ∧
        (∀ p, IsSpelling p → (∀ name, canonicalSpelling p ≠ name ++ ".class") →
          parse ("@" ++ m ++ "(" ++ key ++ p ++ ")") = .ok (ofMarker m (some (.constant p)))) ∧
        ∀ t, parse ("@" ++ m ++ "(" ++ key ++ literal t ++ ")") =
          .ok (ofMarker m (some (.text t)))) ∧
    ∀ s, '(' ∉ s.toList → ∀ q, parse ("@" ++ s) = .ok q →
      IsSpelling s ∧ q = .marked (canonicalSpelling s) none ∧
      ∀ p : Pass, p.declare s = p.declare q.key ∧
        ∀ b : Binding, b.qualifier = some q →
          b.markerMistake? (p.declare s).pass.markers = none := by
  constructor
  · intro m hm
    refine ⟨parse_of_expresses (expresses_alone hm), parse_of_expresses (expresses_empty hm), ?_⟩
    intro key hkey
    exact ⟨fun n hn => parse_classRef hm hkey hn,
      fun p hp hclass => parse_constant hm hkey hp hclass, fun t => parse_text hm hkey t⟩
  · intro s hopen q h
    obtain ⟨hs, rfl⟩ := isSpelling_of_parse hopen h
    refine ⟨hs, rfl, ?_⟩
    intro p
    constructor
    · unfold Pass.declare Pass.withMarker
      rw [key, canonicalSpelling_canonicalSpelling]
    · intro b hb
      simp [Binding.markerMistake?, hb, Pass.declare, Pass.withMarker, Outcome.accept]

/-- The blanks around the segments of a marker and of its argument make no difference. -/
theorem parse_agrees_with_ofMarker_blanks :
    parse "@ a . Size ( value = b . Unit .class)" =
      .ok (ofMarker " a . Size " (some (.classRef "b . Unit "))) ∧
    ∀ p : Pass, p.declare " a . Size " = p.declare "a.Size" := by
  have hm : IsSpelling " a . Size " := by decide +kernel
  have hn : IsSpelling "b . Unit " := by decide +kernel
  have hblank : Blanks [' '] := blanks_singleton (by decide)
  have hkey : IsKey " value = " := .inr ⟨[' '], [' '], [' '], hblank, hblank, hblank, by decide⟩
  have hopen : '(' ∉ " a . Size ".toList := by decide
  have hmarker : (ofMarker " a . Size " none).key = "a.Size" := by decide +kernel
  obtain ⟨hread, hdeclare⟩ := parse_agrees_with_ofMarker
  obtain ⟨halone, -, hargument⟩ := hread _ hm
  refine ⟨(hargument _ hkey).1 _ hn, fun p => ?_⟩
  rw [← hmarker]
  exact ((hdeclare _ hopen _ halone).2.2 p).1

end Qualifier

end Wiring
