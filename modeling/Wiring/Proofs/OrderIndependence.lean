import Wiring.Proofs.Calls
import Wiring.Proofs.Forget

/-!
  The order of the calls makes no difference to what is bound, nor to the verdict of a build.

  Two runs of the same calls in different orders can differ in who wins a slot, and in nothing else.
  The bindings tried are the same up to order, so the same slots are filled
  (`Pass.slot_eq_nil_iff_of_perm`); then the indices are equal once the implementations are
  forgotten, and the checks see the same mistake up to the implementation it names
  (`Pass.mistake?_of_perm`).  Where no two bindings are for one slot nobody can lose it, and the
  indices are equal (`Pass.index_of_perm`).

  Main statement: `Pass.order_makes_no_difference`.
-/

namespace Wiring

/-- The slot that a binding is for. -/
def Binding.keys (b : Binding) : TypeName × Option Qualifier := (b.capability, b.qualifier)

/-! ## The first attempt, in any order -/

theorem firstFor_eq_none_iff {history : List Binding} {c : TypeName} {q : Option Qualifier} :
    firstFor history c q = none ↔ ∀ b ∈ history, b.isFor c q = false := by
  unfold firstFor
  simp only [List.find?_eq_none, Bool.not_eq_true]

/-- Where no two bindings are for one slot, the first one for a slot is the one for it. -/
theorem firstFor_eq_some_iff {history : List Binding} (hnodup : (history.map Binding.keys).Nodup)
    {c : TypeName} {q : Option Qualifier} {b : Binding} :
    firstFor history c q = some b ↔ b ∈ history ∧ b.isFor c q = true := by
  constructor
  · intro h
    exact ⟨List.mem_of_find?_eq_some h, by simpa using List.find?_some h⟩
  · rintro ⟨hmem, hfor⟩
    cases hfirst : firstFor history c q with
    | none =>
      have hnot := firstFor_eq_none_iff.1 hfirst b hmem
      rw [hfor] at hnot
      cases hnot
    | some first =>
      have hfirstMem : first ∈ history := List.mem_of_find?_eq_some hfirst
      have hfirstFor : first.isFor c q = true := by simpa using List.find?_some hfirst
      have hkeys : first.keys = b.keys := by
        obtain ⟨hc, hq⟩ := Binding.isFor_iff.1 hfirstFor
        obtain ⟨hc', hq'⟩ := Binding.isFor_iff.1 hfor
        unfold Binding.keys
        rw [hc, hq, hc', hq']
      rw [List.inj_on_of_nodup_map hnodup hfirstMem hmem hkeys]

theorem firstFor_perm {history history' : List Binding}
    (hnodup : (history.map Binding.keys).Nodup) (hperm : history.Perm history') (c : TypeName)
    (q : Option Qualifier) : firstFor history c q = firstFor history' c q := by
  have hnodup' : (history'.map Binding.keys).Nodup := (hperm.map Binding.keys).nodup_iff.1 hnodup
  apply Option.ext
  intro b
  rw [firstFor_eq_some_iff hnodup, firstFor_eq_some_iff hnodup', hperm.mem_iff]

/-- Where no two bindings are for one slot, indices that record them in any two orders are equal. -/
theorem Index.Records.eq_of_perm {i j : Index} {history history' : List Binding}
    (hi : i.Records history) (hj : j.Records history') (hnodup : (history.map Binding.keys).Nodup)
    (hperm : history.Perm history') : i = j := by
  refine hi.sound.ext hj.sound ?_
  intro c q
  rw [hi.slot_eq, hj.slot_eq, firstFor_perm hnodup hperm]

namespace Pass

/-! ## Two orders of the same calls -/

section TwoOrders

variable {p : Pass} {calls calls' : List Call}

theorem isSingle_of_perm (hperm : calls.Perm calls') (hsingle : ∀ c ∈ calls, c.isSingle = true) :
    ∀ c ∈ calls', c.isSingle = true := fun c hc => hsingle c (hperm.mem_iff.2 hc)

theorem markers_of_perm (hperm : calls.Perm calls') (hsingle : ∀ c ∈ calls, c.isSingle = true) :
    (p.after calls).markers = (p.after calls').markers := by
  have hdeclared : (declared calls).Perm (declared calls') := hperm.filterMap Call.marker?
  apply Std.ExtTreeSet.ext_mem
  intro marker
  rw [mem_markers_after p hsingle, mem_markers_after p (isSingle_of_perm hperm hsingle),
    hdeclared.mem_iff]

theorem checks_of_perm (hperm : calls.Perm calls') (hsingle : ∀ c ∈ calls, c.isSingle = true) :
    (p.after calls).checks = (p.after calls').checks := by
  rw [p.checks_after hsingle, p.checks_after (isSingle_of_perm hperm hsingle)]

variable (checks : Checks)

theorem records_after_start (hsingle : ∀ c ∈ calls, c.isSingle = true) :
    ((start checks).after calls).index.Records (targets calls) := by
  have hrecords := records_after (p := start checks) Index.records_empty hsingle
  rwa [List.nil_append] at hrecords

theorem slot_eq_nil_iff_of_perm (hperm : calls.Perm calls')
    (hsingle : ∀ c ∈ calls, c.isSingle = true) (c : TypeName) (q : Option Qualifier) :
    ((start checks).after calls).index.slot c q = [] ↔
      ((start checks).after calls').index.slot c q = [] := by
  have htargets : (targets calls).Perm (targets calls') := hperm.filterMap Call.target?
  have hslot := (records_after_start checks hsingle).slot_eq c q
  have hslot' := (records_after_start checks (isSingle_of_perm hperm hsingle)).slot_eq c q
  rw [hslot, hslot', Option.toList_eq_nil_iff, Option.toList_eq_nil_iff, firstFor_eq_none_iff,
    firstFor_eq_none_iff]
  simp only [htargets.mem_iff]

/-- The checks find the same mistake, up to the implementation that it names. -/
theorem mistake?_of_perm (hperm : calls.Perm calls') (hsingle : ∀ c ∈ calls, c.isSingle = true) :
    let p := (start checks).after calls
    let p' := (start checks).after calls'
    (p.index.mistake? p.checks p.markers).map BindError.forget =
      (p'.index.mistake? p'.checks p'.markers).map BindError.forget := by
  intro p p'
  have hsound : p.index.Sound := (records_after_start checks hsingle).sound
  have hsingle' : ∀ c ∈ calls', c.isSingle = true := isSingle_of_perm hperm hsingle
  have hsound' : p'.index.Sound := (records_after_start checks hsingle').sound
  have hforget : p.index.forget = p'.index.forget :=
    hsound.forget_eq hsound' (slot_eq_nil_iff_of_perm checks hperm hsingle)
  have hmarkers : p.markers = p'.markers := markers_of_perm hperm hsingle
  have hchecks : p.checks = p'.checks := checks_of_perm hperm hsingle
  rw [← Index.mistake?_forget, ← Index.mistake?_forget, hforget, hmarkers, hchecks]

/-- As many calls for a slot are accepted: one, if a valid one is made. -/
theorem countP_accepts (hsingle : ∀ c ∈ calls, c.isSingle = true) (c : TypeName)
    (q : Option Qualifier) :
    ((start checks).answers calls).countP (·.accepts c q) =
      if (targets calls).any (·.isFor c q) = true then 1 else 0 := by
  have hlength := length_slot_after (p := start checks) hsingle c q
  have hempty : (start checks).index.slot c q = [] := Index.slot_empty c q
  rw [(records_after_start checks hsingle).slot_eq c q, hempty] at hlength
  have hcount : ((start checks).answers calls).countP (·.accepts c q) =
      (firstFor (targets calls) c q).toList.length := by simpa using hlength.symm
  rw [hcount]
  cases hfirst : firstFor (targets calls) c q with
  | none =>
    have hnone := firstFor_eq_none_iff.1 hfirst
    rw [if_neg]
    · rfl
    · simpa using hnone
  | some first =>
    have hmem : first ∈ targets calls := List.mem_of_find?_eq_some hfirst
    have hfor : first.isFor c q = true := by simpa using List.find?_some hfirst
    rw [if_pos (List.any_eq_true.2 ⟨first, hmem, hfor⟩)]
    rfl

theorem index_of_perm (hperm : calls.Perm calls') (hsingle : ∀ c ∈ calls, c.isSingle = true)
    (hnodup : ((targets calls).map Binding.keys).Nodup) :
    ((start checks).after calls).index = ((start checks).after calls').index := by
  have htargets : (targets calls).Perm (targets calls') := hperm.filterMap Call.target?
  have hrecords := records_after_start checks hsingle
  have hrecords' := records_after_start checks (isSingle_of_perm hperm hsingle)
  exact hrecords.eq_of_perm hrecords' hnodup htargets

/-- **The order of the calls makes no difference.**  Some bindings, provisions and markers are
declared on an empty pass, in two orders.

  * The same slots are filled.
  * For every slot, as many calls are accepted, which is one if a valid call is for it, and as many
    are refused because it is taken.  Bindings, duplicates and invalid provisions make up all
    registrations.
  * Either both builds succeed or both fail, and then with the same mistake, up to the
    implementation that it names.
  * If no two valid calls are for one slot, the builds have the same registry or the same mistake,
    implementations included. -/
theorem order_makes_no_difference (hsingle : ∀ c ∈ calls, c.isSingle = true)
    (hperm : calls.Perm calls') :
    let p := (start checks).after calls
    let p' := (start checks).after calls'
    let answers := (start checks).answers calls
    let answers' := (start checks).answers calls'
    (∀ c q, p.index.slot c q ≠ [] ↔ p'.index.slot c q ≠ []) ∧
    (∀ c q,
      answers.countP (·.accepts c q) = (if (targets calls).any (·.isFor c q) then 1 else 0) ∧
      answers'.countP (·.accepts c q) = answers.countP (·.accepts c q) ∧
      answers'.countP (·.refuses c q) = answers.countP (·.refuses c q)) ∧
    p.index.bindings.length + answers.countP (·.isDuplicate) + calls.countP (·.isInvalid) =
      calls.countP (·.isRegistration) ∧
    ((∃ r, p.build = .ok r) ↔ ∃ r, p'.build = .ok r) ∧
    (∀ e e', p.build = .error e → p'.build = .error e' → e.forget = e'.forget) ∧
    (((targets calls).map Binding.keys).Nodup → p.build = p'.build) := by
  intro p p' answers answers'
  have hsingle' : ∀ c ∈ calls', c.isSingle = true := isSingle_of_perm hperm hsingle
  have htargets : (targets calls).Perm (targets calls') := hperm.filterMap Call.target?
  have hmistake := mistake?_of_perm checks hperm hsingle
  refine ⟨?_, ?_, ?_, ?_, ?_, ?_⟩
  · intro c q
    exact not_congr (slot_eq_nil_iff_of_perm checks hperm hsingle c q)
  · intro c q
    have haccepts := countP_accepts checks hsingle c q
    have haccepts' := countP_accepts checks hsingle' c q
    have hany : (targets calls').any (·.isFor c q) = (targets calls).any (·.isFor c q) :=
      htargets.symm.any_eq
    have hsum := countP_accepts_add (p := start checks) hsingle c q
    have hsum' := countP_accepts_add (p := start checks) hsingle' c q
    have hcount := htargets.countP_eq (·.isFor c q)
    have hsame : answers'.countP (·.accepts c q) = answers.countP (·.accepts c q) := by
      rw [haccepts, haccepts', hany]
    refine ⟨haccepts, hsame, ?_⟩
    -- As many calls are for the slot in both orders, and what is not accepted is refused.
    rw [← hcount, ← hsum, hsame] at hsum'
    exact Nat.add_left_cancel hsum'
  · have hlength := length_bindings_after (p := start checks) Index.records_empty hsingle
    have hempty : (start checks).index.bindings.length = 0 := rfl
    rw [hempty, Nat.zero_add] at hlength
    exact hlength
  · rw [exists_build_eq_ok_iff, exists_build_eq_ok_iff,
      ← Option.map_eq_none_iff (f := BindError.forget), hmistake, Option.map_eq_none_iff]
  · intro e e' he he'
    rw [build_eq_error_iff] at he he'
    simp only at hmistake
    rw [he, he'] at hmistake
    exact Option.some.inj hmistake
  · intro hnodup
    exact build_congr (index_of_perm checks hperm hsingle hnodup) (markers_of_perm hperm hsingle)
      (checks_of_perm hperm hsingle)

end TwoOrders

/-- Two bindings that collide over a door, a third one under a marker, a provision by something that
is declared to implement something else, and the declaration of the marker. -/
def crowdedDoor : List Call :=
  [.register (.ofString "Door") none (.ofString "Oak"),
    .register (.ofString "Door") none (.ofString "Ash"),
    .register (.ofString "Door") (some (.marked "b.Q" none)) (.ofString "Elm"),
    .provide ((Provision.ofNames "Ivy" "Gate").implementing ["Wall"]), .declare "b.Q"]

/-- Of the two colliding bindings the first wins, so the mistake names one implementation or the
other, and nothing else depends on the order.  Without the second, the builds are the same. -/
theorem order_makes_no_difference_crowdedDoor :
    let p := (start .strict).after crowdedDoor
    let p' := (start .strict).after crowdedDoor.reverse
    let answers := (start .strict).answers crowdedDoor
    let answers' := (start .strict).answers crowdedDoor.reverse
    let apart := crowdedDoor.eraseIdx 1
    p.build = .error (.missingQualifier (.ofString "Door") (.ofString "Oak")) ∧
    p'.build = .error (.missingQualifier (.ofString "Door") (.ofString "Ash")) ∧
    p'.index.slot (.ofString "Door") none ≠ [] ∧
    (answers.countP (·.accepts (.ofString "Door") none) = 1 ∧
      answers'.countP (·.accepts (.ofString "Door") none) = 1 ∧
      answers'.countP (·.refuses (.ofString "Door") none) = 1) ∧
    (answers.countP (·.isDuplicate) = 1 ∧ crowdedDoor.countP (·.isInvalid) = 1 ∧
      p.index.bindings.length = 2) ∧
    (¬ ∃ r, p'.build = .ok r) ∧
    BindError.forget (.missingQualifier (.ofString "Door") (.ofString "Oak")) =
      BindError.forget (.missingQualifier (.ofString "Door") (.ofString "Ash")) ∧
    ((start .strict).after apart).build = ((start .strict).after apart.reverse).build := by
  intro p p' answers answers' apart
  have hbuild : p.build = .error (.missingQualifier (.ofString "Door") (.ofString "Oak")) := by
    decide +kernel
  have hbuild' : p'.build = .error (.missingQualifier (.ofString "Door") (.ofString "Ash")) := by
    decide +kernel
  have hslot : p.index.slot (.ofString "Door") none ≠ [] := by decide +kernel
  have hrefused : answers.countP (·.refuses (.ofString "Door") none) = 1 := by decide +kernel
  have hduplicate : answers.countP (·.isDuplicate) = 1 := by decide +kernel
  have hinvalid : crowdedDoor.countP (·.isInvalid) = 1 := by decide +kernel
  have hregistrations : crowdedDoor.countP (·.isRegistration) = 4 := by decide
  obtain ⟨hslots, hcounts, hsum, hverdict, hmistake, -⟩ :=
    order_makes_no_difference .strict (by decide) (List.reverse_perm crowdedDoor).symm
  obtain ⟨hone, haccepts, hrefuses⟩ := hcounts (.ofString "Door") none
  obtain ⟨-, -, -, -, -, hsame⟩ :=
    order_makes_no_difference .strict (by decide) (List.reverse_perm apart).symm
  have hfailed : ¬ ∃ r, p.build = .ok r := by
    rintro ⟨r, hr⟩
    rw [hbuild] at hr
    cases hr
  have hbound : p.index.bindings.length = 2 := by
    have hall : p.index.bindings.length + answers.countP (·.isDuplicate) +
        crowdedDoor.countP (·.isInvalid) = crowdedDoor.countP (·.isRegistration) := hsum
    rw [hduplicate, hinvalid, hregistrations] at hall
    omega
  exact ⟨hbuild, hbuild', (hslots _ _).1 hslot,
    ⟨hone, haccepts.trans hone, hrefuses.trans hrefused⟩, ⟨hduplicate, hinvalid, hbound⟩,
    fun h => hfailed (hverdict.2 h), hmistake _ _ hbuild hbuild', hsame (by decide +kernel)⟩

end Pass

end Wiring
