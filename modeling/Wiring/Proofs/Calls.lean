import Wiring.Proofs.History

/-!
  Runs of single calls: bindings, provisions and markers, but no modules.

  A single call targets one binding, or none if it declares a marker or makes an unsound provision
  (`Pass.Call.target?`).  So the bindings that a run tries are known before it starts, and the pass
  afterwards is described by them: its index records them in order (`Pass.records_after`) and its
  markers are those declared (`Pass.mem_markers_after`).

  `Pass.answers` lists the calls of a run with the answers to them.  The counting lemmas follow the
  run call by call: `Pass.length_slot_after` counts what a slot has taken in,
  `Pass.countP_accepts_add` what became of the calls for it, and `Pass.length_bindings_after`
  balances all of them.
-/

namespace Wiring

namespace Pass

/-! ## Single calls -/

namespace Call

/-- Whether a call is no module. -/
def isSingle : Call → Bool
  | .addModule _ => false
  | _ => true

/-- The binding that a single call tries, if it is a valid one. -/
def target? : Call → Option Binding
  | .register c q impl => some ⟨c, q, impl⟩
  | .provide provision =>
    match provision.qualifier with
    | .ok q => some ⟨provision.capability, q, provision.implementation⟩
    | .error _ => none
  | .declare _ => none
  | .addModule _ => none

/-- The marker that a single call declares. -/
def marker? : Call → Option String
  | .declare marker => some (canonicalSpelling marker)
  | _ => none

/-- Whether a call registers or provides. -/
def isRegistration : Call → Bool
  | .register _ _ _ => true
  | .provide _ => true
  | _ => false

/-- Whether a call is a provision that is not sound. -/
def isInvalid : Call → Bool
  | .provide provision => !provision.qualifier.isOk
  | _ => false

end Call

/-- The bindings that some calls try, in order. -/
def targets (calls : List Call) : List Binding := calls.filterMap Call.target?

/-- The markers that some calls declare, in order. -/
def declared (calls : List Call) : List String := calls.filterMap Call.marker?

/-- A call and the answer to it. -/
structure Answer where
  call : Call
  result : Except BindError Unit

namespace Answer

/-- Whether a call for a slot was accepted. -/
def accepts (a : Answer) (c : TypeName) (q : Option Qualifier) : Bool :=
  a.call.target?.any (·.isFor c q) && a.result.isOk

/-- Whether a call was refused because a slot is taken. -/
def refuses (a : Answer) (c : TypeName) (q : Option Qualifier) : Bool :=
  match a.result with
  | .error (.boundTwice c' q' _ _) => c' = c && q' = q
  | _ => false

/-- Whether a call was refused because its slot is taken, whichever that is. -/
def isDuplicate (a : Answer) : Bool :=
  match a.result with
  | .error (.boundTwice _ _ _ _) => true
  | _ => false

end Answer

/-- The answer to a call. -/
def answer (p : Pass) (c : Call) : Answer := ⟨c, (p.call c).result⟩

/-- The answers to some calls, made one after the other. -/
def answers (p : Pass) : List Call → List Answer
  | [] => []
  | c :: rest => p.answer c :: (p.call c).pass.answers rest

theorem answers_cons (p : Pass) (c : Call) (rest : List Call) :
    p.answers (c :: rest) = p.answer c :: (p.call c).pass.answers rest := rfl

theorem after_cons (p : Pass) (c : Call) (rest : List Call) :
    p.after (c :: rest) = (p.call c).pass.after rest := rfl

/-! ## A call -/

theorem qualifier_ne_boundTwice (provision : Provision) (c : TypeName) (q : Option Qualifier)
    (existing duplicate : TypeName) :
    provision.qualifier ≠ .error (.boundTwice c q existing duplicate) := by
  unfold Provision.qualifier
  intro h
  split at h
  · split at h
    · cases h
    · split at h <;> cases h
  · cases h

/-- What a single call is: it registers its target, declares a marker or is refused at once. -/
theorem call_cases (p : Pass) {c : Call} (hc : c.isSingle = true) :
    (∃ b, c.target? = some b ∧
      p.call c = p.register b.capability b.qualifier b.implementation ∧
      c.isRegistration = true ∧ c.isInvalid = false ∧ c.marker? = none) ∨
    (∃ marker, c = .declare marker) ∨
    ∃ provision e, c = .provide provision ∧ provision.qualifier = .error e := by
  cases c with
  | register c q impl => exact .inl ⟨⟨c, q, impl⟩, rfl, rfl, rfl, rfl, rfl⟩
  | declare marker => exact .inr (.inl ⟨marker, rfl⟩)
  | addModule m => cases hc
  | provide provision =>
    cases hq : provision.qualifier with
    | error e => exact .inr (.inr ⟨provision, e, rfl, hq⟩)
    | ok q =>
      have htarget : (Call.provide provision).target? =
          some ⟨provision.capability, q, provision.implementation⟩ := by
        unfold Call.target?
        simp only [hq]
      have hvalid : (Call.provide provision).isInvalid = false := by
        unfold Call.isInvalid
        simp only [hq]
        rfl
      exact .inl ⟨_, htarget, provide_of_ok hq, rfl, hvalid, rfl⟩

theorem target?_of_error {provision : Provision} {e : BindError}
    (h : provision.qualifier = .error e) : (Call.provide provision).target? = none := by
  unfold Call.target?
  simp only [h]

theorem answer_of_error {p : Pass} {provision : Provision} {e : BindError}
    (h : provision.qualifier = .error e) (c : TypeName) (q : Option Qualifier) :
    (p.answer (.provide provision)).accepts c q = false ∧
      (p.answer (.provide provision)).refuses c q = false ∧
      (p.answer (.provide provision)).isDuplicate = false ∧
      (Call.provide provision).isInvalid = true := by
  have hne : ∀ c q existing duplicate, e ≠ .boundTwice c q existing duplicate := by
    rintro c q existing duplicate rfl
    exact qualifier_ne_boundTwice provision c q existing duplicate h
  have hresult : (p.answer (.provide provision)).result = .error e := by
    simp only [answer, call, provide_of_error h]
  have hinvalid : (Call.provide provision).isInvalid = true := by
    unfold Call.isInvalid
    simp only [h]
    rfl
  unfold Answer.accepts Answer.refuses Answer.isDuplicate
  rw [hresult]
  refine ⟨?_, ?_, ?_, hinvalid⟩
  · exact Bool.and_false _
  · cases e with
    | boundTwice c' q' existing duplicate => exact absurd rfl (hne c' q' existing duplicate)
    | _ => rfl
  · cases e with
    | boundTwice c' q' existing duplicate => exact absurd rfl (hne c' q' existing duplicate)
    | _ => rfl

theorem answer_of_free {p : Pass} {call : Call} {b : Binding} (htarget : call.target? = some b)
    (hcall : p.call call = p.register b.capability b.qualifier b.implementation)
    (h : p.index.slot b.capability b.qualifier = []) (c : TypeName) (q : Option Qualifier) :
    (p.answer call).accepts c q = b.isFor c q ∧ (p.answer call).refuses c q = false ∧
      (p.answer call).isDuplicate = false := by
  have hresult : (p.answer call).result = .ok () := by
    simp only [answer, hcall, register_of_free _ h]
  unfold Answer.accepts Answer.refuses Answer.isDuplicate
  rw [hresult]
  refine ⟨?_, rfl, rfl⟩
  have hany : (p.answer call).call.target?.any (·.isFor c q) = b.isFor c q := by
    rw [show (p.answer call).call = call from rfl, htarget]
    rfl
  rw [hany]
  exact Bool.and_true _

theorem answer_of_taken {p : Pass} {call : Call} {b existing : Binding} {rest : List Binding}
    (hcall : p.call call = p.register b.capability b.qualifier b.implementation)
    (h : p.index.slot b.capability b.qualifier = existing :: rest) (c : TypeName)
    (q : Option Qualifier) :
    (p.answer call).accepts c q = false ∧ (p.answer call).refuses c q = b.isFor c q ∧
      (p.answer call).isDuplicate = true := by
  have hresult : (p.answer call).result =
      .error (.boundTwice b.capability b.qualifier existing.implementation b.implementation) := by
    simp only [answer, hcall, register_of_taken _ h]
  unfold Answer.accepts Answer.refuses Answer.isDuplicate
  rw [hresult]
  exact ⟨Bool.and_false _, rfl, rfl⟩

end Pass

theorem Index.Records.call {p : Pass} {history : List Binding} (h : p.index.Records history)
    {c : Pass.Call} (hc : c.isSingle = true) :
    (p.call c).pass.index.Records (history ++ c.target?.toList) := by
  rcases p.call_cases hc with ⟨b, htarget, hcall, -⟩ | ⟨marker, rfl⟩ | ⟨provision, e, rfl, hq⟩
  · rw [htarget, hcall]
    exact (h.register b).2
  · rw [show (Pass.Call.declare marker).target?.toList = [] from rfl, List.append_nil]
    exact h
  · rw [Pass.target?_of_error hq]
    simp only [Pass.call, Pass.provide_of_error hq, Option.toList_none, List.append_nil]
    exact h

namespace Pass

/-! ## A run -/

/-- The index of a pass records the bindings that were tried. -/
theorem records_after {p : Pass} {history : List Binding} (h : p.index.Records history)
    {calls : List Call} (hsingle : ∀ c ∈ calls, c.isSingle = true) :
    (p.after calls).index.Records (history ++ targets calls) := by
  induction calls generalizing p history with
  | nil =>
    rw [show targets [] = [] from rfl, List.append_nil]
    exact h
  | cons c rest ih =>
    obtain ⟨hc, hrest⟩ := List.forall_mem_cons.1 hsingle
    have hall := ih (h.call hc) hrest
    have htargets : targets (c :: rest) = c.target?.toList ++ targets rest := by
      unfold targets
      rw [List.filterMap_cons]
      cases c.target? <;> rfl
    rw [htargets, ← List.append_assoc]
    exact hall

theorem checks_register (p : Pass) (c : TypeName) (q : Option Qualifier) (impl : TypeName) :
    (p.register c q impl).pass.checks = p.checks := by
  cases hslot : p.index.slot c q with
  | nil => rw [register_of_free impl hslot]
  | cons existing rest => rw [register_of_taken impl hslot]

theorem markers_register (p : Pass) (c : TypeName) (q : Option Qualifier) (impl : TypeName) :
    (p.register c q impl).pass.markers = p.markers := by
  cases hslot : p.index.slot c q with
  | nil => rw [register_of_free impl hslot]
  | cons existing rest => rw [register_of_taken impl hslot]

theorem checks_after (p : Pass) {calls : List Call} (hsingle : ∀ c ∈ calls, c.isSingle = true) :
    (p.after calls).checks = p.checks := by
  induction calls generalizing p with
  | nil => rfl
  | cons c rest ih =>
    obtain ⟨hc, hrest⟩ := List.forall_mem_cons.1 hsingle
    have hstep : (p.call c).pass.checks = p.checks := by
      rcases p.call_cases hc with ⟨b, -, hcall, -⟩ | ⟨marker, rfl⟩ | ⟨provision, e, rfl, hq⟩
      · rw [hcall, checks_register]
      · rfl
      · simp only [call, provide_of_error hq]
    exact (ih (p.call c).pass hrest).trans hstep

theorem mem_markers_after (p : Pass) {calls : List Call}
    (hsingle : ∀ c ∈ calls, c.isSingle = true) {marker : String} :
    marker ∈ (p.after calls).markers ↔ marker ∈ p.markers ∨ marker ∈ declared calls := by
  induction calls generalizing p with
  | nil => simp [after, declared]
  | cons c rest ih =>
    obtain ⟨hc, hrest⟩ := List.forall_mem_cons.1 hsingle
    have hstep : marker ∈ (p.call c).pass.markers ↔
        marker ∈ p.markers ∨ c.marker? = some marker := by
      rcases p.call_cases hc with ⟨b, -, hcall, -, -, hmarker⟩ | ⟨m, rfl⟩ | ⟨provision, e, rfl, hq⟩
      · rw [hcall, markers_register, hmarker]
        simp
      · simp only [call, declare, Outcome.accept, withMarker, Call.marker?,
          Std.ExtTreeSet.mem_insert, Std.LawfulEqOrd.compare_eq_iff_eq, Option.some.injEq]
        rw [or_comm, eq_comm]
      · simp [call, provide_of_error hq, Call.marker?]
    have hall := ih (p.call c).pass hrest
    have hdeclared : marker ∈ declared (c :: rest) ↔
        c.marker? = some marker ∨ marker ∈ declared rest := by
      unfold declared
      rw [List.filterMap_cons]
      cases c.marker? with
      | none => simp
      | some m => simp [eq_comm]
    rw [hdeclared, ← or_assoc, ← hstep]
    exact hall

/-! ## Counting the answers -/

theorem length_slot_call (p : Pass) {call : Call} (hcall : call.isSingle = true) (c : TypeName)
    (q : Option Qualifier) :
    ((p.call call).pass.index.slot c q).length =
      (p.index.slot c q).length + if (p.answer call).accepts c q = true then 1 else 0 := by
  rcases p.call_cases hcall with ⟨b, htarget, heq, -⟩ | ⟨marker, rfl⟩ | ⟨provision, e, rfl, hq⟩
  · cases hslot : p.index.slot b.capability b.qualifier with
    | nil =>
      rw [(answer_of_free htarget heq hslot c q).1, heq, register_of_free _ hslot]
      simp only [Index.slot_add, Binding.isFor_iff]
      by_cases hb : b.capability = c ∧ b.qualifier = q
      · rw [if_pos hb, if_pos hb, List.length_append, List.length_singleton]
      · rw [if_neg hb, if_neg hb, Nat.add_zero]
    | cons existing rest =>
      rw [(answer_of_taken heq hslot c q).1, heq, register_of_taken _ hslot]
      rfl
  · rfl
  · rw [(answer_of_error hq c q).1]
    simp [Pass.call, provide_of_error hq]

/-- A call for a slot is accepted or refused because the slot is taken, and other calls are
neither. -/
theorem accepts_add_refuses (p : Pass) {call : Call} (hcall : call.isSingle = true) (c : TypeName)
    (q : Option Qualifier) :
    ((if (p.answer call).accepts c q = true then 1 else 0) +
      if (p.answer call).refuses c q = true then 1 else 0) =
      if call.target?.any (·.isFor c q) = true then 1 else 0 := by
  rcases p.call_cases hcall with ⟨b, htarget, heq, -⟩ | ⟨marker, rfl⟩ | ⟨provision, e, rfl, hq⟩
  · rw [htarget]
    cases hslot : p.index.slot b.capability b.qualifier with
    | nil =>
      obtain ⟨haccepts, hrefuses, -⟩ := answer_of_free htarget heq hslot c q
      rw [haccepts, hrefuses]
      rfl
    | cons existing rest =>
      obtain ⟨haccepts, hrefuses, -⟩ := answer_of_taken heq hslot c q
      rw [haccepts, hrefuses]
      simp
  · rfl
  · obtain ⟨haccepts, hrefuses, -⟩ := answer_of_error (p := p) hq c q
    rw [haccepts, hrefuses, target?_of_error hq]
    rfl

theorem length_bindings_call {p : Pass} {history : List Binding} (h : p.index.Records history)
    {call : Call} (hcall : call.isSingle = true) :
    ((p.call call).pass.index.bindings.length +
      if (p.answer call).isDuplicate = true then 1 else 0) +
        (if call.isInvalid = true then 1 else 0) =
      p.index.bindings.length + if call.isRegistration = true then 1 else 0 := by
  rcases p.call_cases hcall with ⟨b, htarget, heq, hregistration, hinvalid, -⟩ | ⟨marker, rfl⟩ |
    ⟨provision, e, rfl, hq⟩
  · rw [hregistration, hinvalid]
    cases hslot : p.index.slot b.capability b.qualifier with
    | nil =>
      have hlength := (h.sound.perm_bindings_add hslot).length_eq
      rw [(answer_of_free htarget heq hslot b.capability b.qualifier).2.2, heq,
        register_of_free _ hslot]
      simpa using hlength
    | cons existing rest =>
      rw [(answer_of_taken heq hslot b.capability b.qualifier).2.2, heq,
        register_of_taken _ hslot]
      simp
  · rfl
  · obtain ⟨-, -, hduplicate, hinvalid⟩ :=
      answer_of_error (p := p) hq provision.capability none
    rw [hduplicate, hinvalid]
    simp [Pass.call, provide_of_error hq, Call.isRegistration]

variable {p : Pass} {calls : List Call}

/-- Over a run, a slot takes in the calls for it that are accepted. -/
theorem length_slot_after (hsingle : ∀ c ∈ calls, c.isSingle = true) (c : TypeName)
    (q : Option Qualifier) :
    ((p.after calls).index.slot c q).length =
      (p.index.slot c q).length + (p.answers calls).countP (·.accepts c q) := by
  induction calls generalizing p with
  | nil => rfl
  | cons call rest ih =>
    obtain ⟨hcall, hrest⟩ := List.forall_mem_cons.1 hsingle
    have hstep := p.length_slot_call hcall c q
    have hall := ih (p := (p.call call).pass) hrest
    rw [after_cons, answers_cons, List.countP_cons, hall, hstep]
    omega

/-- Over a run, the calls for a slot are those accepted and those refused because it is taken. -/
theorem countP_accepts_add (hsingle : ∀ c ∈ calls, c.isSingle = true) (c : TypeName)
    (q : Option Qualifier) :
    (p.answers calls).countP (·.accepts c q) + (p.answers calls).countP (·.refuses c q) =
      (targets calls).countP (·.isFor c q) := by
  induction calls generalizing p with
  | nil => rfl
  | cons call rest ih =>
    obtain ⟨hcall, hrest⟩ := List.forall_mem_cons.1 hsingle
    have hstep := p.accepts_add_refuses hcall c q
    have hall := ih (p := (p.call call).pass) hrest
    have htargets : (targets (call :: rest)).countP (·.isFor c q) =
        (targets rest).countP (·.isFor c q) +
          if call.target?.any (·.isFor c q) = true then 1 else 0 := by
      unfold targets
      rw [List.filterMap_cons]
      cases call.target? with
      | none => rfl
      | some b => exact List.countP_cons
    rw [htargets, answers_cons, List.countP_cons, List.countP_cons]
    omega

/-- Over a run, the registrations are those bound, those refused because their slot is taken and
those that are invalid. -/
theorem length_bindings_after {history : List Binding} (h : p.index.Records history)
    (hsingle : ∀ c ∈ calls, c.isSingle = true) :
    (p.after calls).index.bindings.length + (p.answers calls).countP (·.isDuplicate) +
        calls.countP (·.isInvalid) =
      p.index.bindings.length + calls.countP (·.isRegistration) := by
  induction calls generalizing p history with
  | nil => rfl
  | cons call rest ih =>
    obtain ⟨hcall, hrest⟩ := List.forall_mem_cons.1 hsingle
    have hstep := length_bindings_call h hcall
    have hall := ih (h.call hcall) hrest
    rw [after_cons, answers_cons, List.countP_cons, List.countP_cons, List.countP_cons]
    omega

end Pass

end Wiring
