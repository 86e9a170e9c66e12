import Wiring.Session
import Wiring.Proofs.Slot

/-!
  Histories: the bindings that were tried in a pass, in order, accepted or not.

  `firstFor` is the first attempt for a slot and `verdict` what the rule "the first one wins" says
  about one more attempt.  `Index.Records` ties the two to the program: an index records a history
  if it is sound and every slot holds the first attempt for it.  Registering keeps this and answers
  with the verdict (`Index.Records.register`).

  The steps themselves are taken apart first, case by case, so that no proof has to open them.  They
  look at nothing but the index, so what is changed beside it can be changed before or after
  (`Pass.Aside.provideAll`).
-/

namespace Wiring

/-! ## The first attempt for a slot -/

/-- Whether a binding is for a slot. -/
def Binding.isFor (b : Binding) (c : TypeName) (q : Option Qualifier) : Bool :=
  b.capability = c && b.qualifier = q

theorem Binding.isFor_iff {b : Binding} {c : TypeName} {q : Option Qualifier} :
    b.isFor c q = true ↔ b.capability = c ∧ b.qualifier = q := by
  simp [isFor]

/-- The first attempt for a slot. -/
def firstFor (history : List Binding) (c : TypeName) (q : Option Qualifier) : Option Binding :=
  history.find? (·.isFor c q)

/-- What becomes of one more attempt: it is accepted unless there was one for its slot before. -/
def verdict (history : List Binding) (b : Binding) : Except BindError Unit :=
  match firstFor history b.capability b.qualifier with
  | some first =>
    .error (.boundTwice b.capability b.qualifier first.implementation b.implementation)
  | none => .ok ()

/-- An attempt is accepted exactly if no earlier one is for its slot. -/
theorem verdict_eq_ok_iff {history : List Binding} {b : Binding} :
    verdict history b = .ok () ↔ ∀ a ∈ history, a.isFor b.capability b.qualifier = false := by
  unfold verdict firstFor
  cases h : history.find? (·.isFor b.capability b.qualifier) with
  | none => simpa using h
  | some first =>
    have hmem := List.mem_of_find?_eq_some h
    have hfor := List.find?_some h
    constructor
    · intro hok
      cases hok
    · intro hall
      rw [hall first hmem] at hfor
      cases hfor

theorem keys_of_firstFor {history : List Binding} {c : TypeName} {q : Option Qualifier}
    {b : Binding} (h : firstFor history c q = some b) : b = ⟨c, q, b.implementation⟩ := by
  have hfor : b.isFor c q = true := by simpa using List.find?_some h
  obtain ⟨rfl, rfl⟩ := Binding.isFor_iff.1 hfor
  rfl

/-- One more attempt is the first for its slot if there was none before, and changes nothing for
other slots. -/
theorem firstFor_concat (history : List Binding) (b : Binding) (c : TypeName)
    (q : Option Qualifier) :
    firstFor (history ++ [b]) c q =
      (firstFor history c q <|> if b.isFor c q = true then some b else none) := by
  unfold firstFor
  rw [List.find?_append, List.find?_singleton]
  cases history.find? (·.isFor c q) <;> rfl

/-! ## Steps in a row -/

namespace Outcome

theorem andThen_of_error {o : Outcome} {e : BindError} (h : o.result = .error e)
    (next : Pass → Outcome) : o.andThen next = o := by
  rw [andThen, h]

theorem andThen_of_ok {o : Outcome} (h : o.result = .ok ()) (next : Pass → Outcome) :
    o.andThen next = { next o.pass with events := o.events ++ (next o.pass).events } := by
  rw [andThen, h]

theorem andThen_assoc (o : Outcome) (next last : Pass → Outcome) :
    (o.andThen next).andThen last = o.andThen fun p => (next p).andThen last := by
  obtain ⟨p, result, events⟩ := o
  cases result with
  | error e => rfl
  | ok _ =>
    cases hresult : (next p).result with
    | error e => simp only [andThen, hresult]
    | ok _ => simp only [andThen, hresult, List.append_assoc]

end Outcome

/-! ## Registering, case by case -/

namespace Pass

theorem register_of_free {p : Pass} {c : TypeName} {q : Option Qualifier} (impl : TypeName)
    (h : p.index.slot c q = []) :
    p.register c q impl =
      ⟨{ p with index := p.index.add ⟨c, q, impl⟩ }, .ok (), [.registered ⟨c, q, impl⟩]⟩ := by
  have hadd := p.index.add_enter ⟨c, q, impl⟩
  unfold register
  simp only [Index.slot_enter, h, hadd]

theorem register_of_taken {p : Pass} {c : TypeName} {q : Option Qualifier} {existing : Binding}
    {rest : List Binding} (impl : TypeName) (h : p.index.slot c q = existing :: rest) :
    p.register c q impl =
      ⟨p, .error (.boundTwice c q existing.implementation impl),
        [.bindingRejected (.boundTwice c q existing.implementation impl)]⟩ := by
  have henter : p.index.enter c q = p.index := Index.enter_of_ne_nil (by simp [h])
  unfold register
  simp only [henter, h]

theorem provide_of_error {p : Pass} {provision : Provision} {e : BindError}
    (h : provision.qualifier = .error e) :
    p.provide provision = ⟨p, .error e, [.provisionRejected e]⟩ := by
  unfold provide
  rw [h]

theorem provide_of_ok {p : Pass} {provision : Provision} {q : Option Qualifier}
    (h : provision.qualifier = .ok q) :
    p.provide provision = p.register provision.capability q provision.implementation := by
  unfold provide
  rw [h]

theorem provideAll_of_error {p : Pass} {provision : Provision} {e : BindError}
    (h : (p.provide provision).result = .error e) (rest : List Provision) :
    p.provideAll (provision :: rest) = p.provide provision :=
  Outcome.andThen_of_error h _

theorem provideAll_of_ok {p : Pass} {provision : Provision}
    (h : (p.provide provision).result = .ok ()) (rest : List Provision) :
    p.provideAll (provision :: rest) =
      let next := (p.provide provision).pass.provideAll rest
      { next with events := (p.provide provision).events ++ next.events } :=
  Outcome.andThen_of_ok h _

theorem provideAll_append (p : Pass) (provisions more : List Provision) :
    p.provideAll (provisions ++ more) =
      (p.provideAll provisions).andThen (·.provideAll more) := by
  induction provisions generalizing p with
  | nil => rfl
  | cons provision rest ih =>
    rw [List.cons_append, provideAll, provideAll, Outcome.andThen_assoc]
    simp only [ih]

theorem foldl_withMarker (p : Pass) (markers : List String) :
    markers.foldl withMarker p =
      { p with markers := p.markers.insertMany (markers.map canonicalSpelling) } := by
  induction markers generalizing p with
  | nil => simp
  | cons marker rest ih =>
    rw [List.foldl_cons, ih, List.map_cons, Std.ExtTreeSet.insertMany_cons]
    rfl

end Pass

/-! ## Changes beside the index -/

namespace Outcome

/-- The outcome with a change made to its pass. -/
def mapPass (o : Outcome) (f : Pass → Pass) : Outcome := { o with pass := f o.pass }

/-- A second step that does the same before a change as after it does so after a first one. -/
theorem andThen_mapPass (o : Outcome) {f : Pass → Pass} {next : Pass → Outcome}
    (hnext : ∀ p, next (f p) = (next p).mapPass f) :
    (o.mapPass f).andThen next = (o.andThen next).mapPass f := by
  obtain ⟨p, result, events⟩ := o
  cases result with
  | error e => rfl
  | ok _ => simp only [andThen, mapPass, hnext]

end Outcome

namespace Pass

/-- The pass with another index. -/
def withIndex (p : Pass) (i : Index) : Pass := { p with index := i }

/-- A change of passes has nothing to do with their indices. -/
def Aside (f : Pass → Pass) : Prop := ∀ p i, f (p.withIndex i) = (f p).withIndex i

namespace Aside

variable {f : Pass → Pass}

theorem index (h : Aside f) (p : Pass) : (f p).index = p.index := by
  have hindex := congrArg Pass.index (h p p.index)
  exact hindex

/-- Bindings go into the index only, so the change can be made before or after. -/
theorem register (h : Aside f) (p : Pass) (c : TypeName) (q : Option Qualifier)
    (impl : TypeName) : (f p).register c q impl = (p.register c q impl).mapPass f := by
  have hindex := h.index p
  cases hslot : p.index.slot c q with
  | nil =>
    have hadd := h p (p.index.add ⟨c, q, impl⟩)
    rw [register_of_free impl hslot, register_of_free impl (hindex ▸ hslot), hindex]
    exact congrArg (Outcome.mk · _ _) hadd.symm
  | cons existing rest =>
    rw [register_of_taken impl hslot, register_of_taken impl (hindex ▸ hslot)]
    rfl

theorem provide (h : Aside f) (p : Pass) (provision : Provision) :
    (f p).provide provision = (p.provide provision).mapPass f := by
  cases hq : provision.qualifier with
  | error e =>
    rw [provide_of_error hq, provide_of_error hq]
    rfl
  | ok q => rw [provide_of_ok hq, provide_of_ok hq, h.register]

theorem provideAll (h : Aside f) (p : Pass) (provisions : List Provision) :
    (f p).provideAll provisions = (p.provideAll provisions).mapPass f := by
  induction provisions generalizing p with
  | nil => rfl
  | cons provision rest ih =>
    unfold Pass.provideAll
    rw [h.provide, Outcome.andThen_mapPass _ ih]

end Aside

theorem aside_withMarkers (markers : List String) : Aside (markers.foldl withMarker) := by
  intro p i
  simp only [foldl_withMarker]
  rfl

/-! ## Building, case by case -/

theorem build_eq_error_iff {p : Pass} {e : BindError} :
    p.build = .error e ↔ p.index.mistake? p.checks p.markers = some e := by
  unfold build buildLogged
  cases p.index.mistake? p.checks p.markers with
  | none => simp
  | some e' => simp

theorem build_eq_ok_iff {p : Pass} {r : Registry} :
    p.build = .ok r ↔ p.index.mistake? p.checks p.markers = none ∧ r = ⟨p.index⟩ := by
  unfold build buildLogged
  cases p.index.mistake? p.checks p.markers with
  | none => simp [eq_comm]
  | some e => simp

theorem exists_build_eq_ok_iff {p : Pass} :
    (∃ r, p.build = .ok r) ↔ p.index.mistake? p.checks p.markers = none := by
  simp only [build_eq_ok_iff, exists_and_left, exists_eq, and_true]

theorem build_congr {p p' : Pass} (hindex : p.index = p'.index) (hmarkers : p.markers = p'.markers)
    (hchecks : p.checks = p'.checks) : p.build = p'.build := by
  unfold build buildLogged
  rw [hindex, hmarkers, hchecks]

end Pass

/-! ## Indices that record a history -/

namespace Index

/-- An index records a history if every slot holds the first attempt for it and nothing else. -/
structure Records (i : Index) (history : List Binding) : Prop where
  sound : i.Sound
  slot_eq : ∀ c q, i.slot c q = (firstFor history c q).toList

theorem records_empty : Records ∅ [] where
  sound := sound_empty
  slot_eq c q := by rw [slot_empty]; rfl

/-- Registering answers with the verdict of the history, and the attempt joins the history. -/
theorem Records.register {p : Pass} {history : List Binding} (h : p.index.Records history)
    (b : Binding) :
    (p.register b.capability b.qualifier b.implementation).result = verdict history b ∧
      (p.register b.capability b.qualifier b.implementation).pass.index.Records
        (history ++ [b]) := by
  have hslot := h.slot_eq b.capability b.qualifier
  unfold verdict
  cases hfirst : firstFor history b.capability b.qualifier with
  | none =>
    rw [hfirst] at hslot
    rw [Pass.register_of_free _ hslot]
    refine ⟨rfl, h.sound.add hslot, ?_⟩
    intro c q
    rw [slot_add, firstFor_concat, h.slot_eq]
    by_cases hb : b.capability = c ∧ b.qualifier = q
    · rw [if_pos hb, if_pos (Binding.isFor_iff.2 hb)]
      obtain ⟨rfl, rfl⟩ := hb
      rw [hfirst]
      rfl
    · rw [if_neg hb, if_neg fun hfor => hb (Binding.isFor_iff.1 hfor)]
      cases firstFor history c q <;> rfl
  | some first =>
    rw [hfirst] at hslot
    rw [Pass.register_of_taken _ hslot]
    refine ⟨rfl, h.sound, ?_⟩
    intro c q
    rw [h.slot_eq, firstFor_concat]
    by_cases hb : b.capability = c ∧ b.qualifier = q
    · obtain ⟨rfl, rfl⟩ := hb
      rw [hfirst]
      rfl
    · rw [if_neg fun hfor => hb (Binding.isFor_iff.1 hfor)]
      cases firstFor history c q <;> rfl

end Index

/-! ## Requests after a build -/

/-- A registry whose index records a history answers with the first attempt for the slot. -/
theorem Registry.resolve_of_records {r : Registry} {history : List Binding}
    (h : r.index.Records history) (c : TypeName) (q : Option Qualifier) :
    r.resolve c q =
      match firstFor history c q with
      | some first => .ok ⟨c, q, first.implementation⟩
      | none => .error (.unresolved c q (r.qualifiers c)) := by
  unfold Registry.resolve Registry.resolveLogged
  rw [h.slot_eq]
  cases hfirst : firstFor history c q with
  | none => rfl
  | some first => exact congrArg Except.ok (keys_of_firstFor hfirst)

end Wiring
