import Wiring.Proofs.OrderIndependence

/-!
  Runs with modules, taken apart into single calls.

  A module stands for the declarations of its markers and then for its provisions
  (`Pass.Call.singles`).  Where every call is accepted no module stops midway, so a run comes to the
  same pass as the run of its single calls (`Pass.after_singles`), and the one is accepted exactly
  if the other is (`Pass.acceptsAll_singles_iff`).

  Whether single calls are accepted is a matter of the slots alone: none may be an unsound
  provision, and no two bindings, of those that were there and those that are tried, may be for one
  slot (`Pass.acceptsAll_iff_nodup`).  The order of the calls does not come into this.
-/

namespace Wiring

theorem verdict_eq_ok_iff_keys {history : List Binding} {b : Binding} :
    verdict history b = .ok () ↔ b.keys ∉ history.map Binding.keys := by
  rw [verdict_eq_ok_iff]
  have hkeys : ∀ a : Binding, a.isFor b.capability b.qualifier = false ↔ a.keys ≠ b.keys := by
    intro a
    rw [← Bool.not_eq_true, Binding.isFor_iff, Binding.keys, Binding.keys, ne_eq, Prod.mk.injEq]
  simp only [hkeys, List.mem_map, not_exists, not_and, ne_eq]

namespace Pass

/-! ## Accepted runs -/

/-- Every call of a run is accepted. -/
def AcceptsAll (p : Pass) (calls : List Call) : Prop := ∀ a ∈ p.answers calls, a.result = .ok ()

theorem acceptsAll_nil (p : Pass) : p.AcceptsAll [] := by
  intro a ha
  cases ha

theorem acceptsAll_cons {p : Pass} {c : Call} {rest : List Call} :
    p.AcceptsAll (c :: rest) ↔
      (p.call c).result = .ok () ∧ (p.call c).pass.AcceptsAll rest := by
  unfold AcceptsAll
  rw [answers_cons, List.forall_mem_cons]
  rfl

theorem after_append (p : Pass) (calls more : List Call) :
    p.after (calls ++ more) = (p.after calls).after more := List.foldl_append

theorem acceptsAll_append {p : Pass} {calls more : List Call} :
    p.AcceptsAll (calls ++ more) ↔ p.AcceptsAll calls ∧ (p.after calls).AcceptsAll more := by
  induction calls generalizing p with
  | nil => simp [acceptsAll_nil, after]
  | cons c rest ih =>
    rw [List.cons_append, acceptsAll_cons, acceptsAll_cons, ih, after_cons, and_assoc]

/-! ## The single calls of a call -/

/-- The declarations and provisions that a call stands for. -/
def Call.singles : Call → List Call
  | .addModule m => m.markers.toList.map .declare ++ m.provisions.map .provide
  | c => [c]

theorem Call.isSingle_of_mem_singles {c single : Call} (h : single ∈ c.singles) :
    single.isSingle = true := by
  cases c with
  | addModule m =>
    rcases List.mem_append.1 h with h | h
    · obtain ⟨marker, -, rfl⟩ := List.mem_map.1 h
      rfl
    · obtain ⟨provision, -, rfl⟩ := List.mem_map.1 h
      rfl
  | register c q impl =>
    rw [List.mem_singleton.1 h]
    rfl
  | provide provision =>
    rw [List.mem_singleton.1 h]
    rfl
  | declare marker =>
    rw [List.mem_singleton.1 h]
    rfl

/-- Markers are always accepted, and the markers of a module are declared in one go. -/
theorem acceptsAll_declares (p : Pass) (markers : List String) :
    p.AcceptsAll (markers.map .declare) ∧
      p.after (markers.map .declare) = markers.foldl withMarker p := by
  induction markers generalizing p with
  | nil => exact ⟨p.acceptsAll_nil, rfl⟩
  | cons marker rest ih =>
    obtain ⟨haccepts, hafter⟩ := ih (p.withMarker marker)
    exact ⟨acceptsAll_cons.2 ⟨rfl, haccepts⟩, hafter⟩

theorem provideAll_eq_ok_iff (p : Pass) (provisions : List Provision) :
    ((p.provideAll provisions).result = .ok () ↔ p.AcceptsAll (provisions.map .provide)) ∧
      ((p.provideAll provisions).result = .ok () →
        (p.provideAll provisions).pass = p.after (provisions.map .provide)) := by
  induction provisions generalizing p with
  | nil => exact ⟨⟨fun _ => p.acceptsAll_nil, fun _ => rfl⟩, fun _ => rfl⟩
  | cons provision rest ih =>
    rw [List.map_cons, acceptsAll_cons, after_cons]
    have hcall : p.call (.provide provision) = p.provide provision := rfl
    rw [hcall]
    cases hresult : (p.provide provision).result with
    | error e =>
      rw [provideAll_of_error hresult, hresult]
      simp
    | ok _ =>
      obtain ⟨hiff, hpass⟩ := ih (p.provide provision).pass
      rw [provideAll_of_ok hresult]
      exact ⟨hiff.trans (and_iff_right rfl).symm, hpass⟩

/-- A call is accepted exactly if its single calls are, and then it does what they do. -/
theorem call_eq_ok_iff_singles (p : Pass) (c : Call) :
    ((p.call c).result = .ok () ↔ p.AcceptsAll c.singles) ∧
      ((p.call c).result = .ok () → (p.call c).pass = p.after c.singles) := by
  have hsingle : p.AcceptsAll [c] ↔ (p.call c).result = .ok () := by
    rw [acceptsAll_cons]
    exact and_iff_left (acceptsAll_nil _)
  cases c with
  | register c q impl => exact ⟨hsingle.symm, fun _ => rfl⟩
  | provide provision => exact ⟨hsingle.symm, fun _ => rfl⟩
  | declare marker => exact ⟨hsingle.symm, fun _ => rfl⟩
  | addModule m =>
    obtain ⟨hmarkers, hafter⟩ := p.acceptsAll_declares m.markers.toList
    obtain ⟨hiff, hpass⟩ :=
      provideAll_eq_ok_iff (m.markers.toList.foldl withMarker p) m.provisions
    unfold Call.singles
    rw [acceptsAll_append, after_append, hafter]
    exact ⟨hiff.trans (and_iff_right hmarkers).symm, hpass⟩

/-! ## The single calls of a run -/

/-- The single calls of a run. -/
def singles (calls : List Call) : List Call := calls.flatMap Call.singles

theorem isSingle_of_mem_singles {calls : List Call} : ∀ c ∈ singles calls, c.isSingle = true := by
  intro c hc
  obtain ⟨call, -, hc⟩ := List.mem_flatMap.1 hc
  exact Call.isSingle_of_mem_singles hc

/-- A run is accepted exactly if the run of its single calls is, and then both come to one pass. -/
theorem singles_spec (p : Pass) (calls : List Call) :
    (p.AcceptsAll calls ↔ p.AcceptsAll (singles calls)) ∧
      (p.AcceptsAll calls → p.after calls = p.after (singles calls)) := by
  induction calls generalizing p with
  | nil => exact ⟨Iff.rfl, fun _ => rfl⟩
  | cons c rest ih =>
    obtain ⟨hiff, hpass⟩ := p.call_eq_ok_iff_singles c
    have hcons : singles (c :: rest) = c.singles ++ singles rest := List.flatMap_cons
    rw [hcons, acceptsAll_cons, acceptsAll_append, after_cons, after_append, ← hiff]
    by_cases hresult : (p.call c).result = .ok ()
    · rw [← hpass hresult]
      obtain ⟨hrest, hafter⟩ := ih (p.call c).pass
      exact ⟨and_congr_right fun _ => hrest, fun h => hafter h.2⟩
    · exact ⟨by simp [hresult], fun h => absurd h.1 hresult⟩

theorem acceptsAll_singles_iff {p : Pass} {calls : List Call} :
    p.AcceptsAll (singles calls) ↔ p.AcceptsAll calls := (p.singles_spec calls).1.symm

theorem after_singles {p : Pass} {calls : List Call} (h : p.AcceptsAll calls) :
    p.after (singles calls) = p.after calls := ((p.singles_spec calls).2 h).symm

/-! ## When single calls are accepted -/

/-- A single call is accepted exactly if it is no unsound provision and no binding that the index
records has the keys of its target. -/
theorem call_eq_ok_iff_nodup {p : Pass} {history : List Binding} (h : p.index.Records history)
    (hnodup : (history.map Binding.keys).Nodup) {c : Call} (hc : c.isSingle = true) :
    (p.call c).result = .ok () ↔
      c.isInvalid = false ∧ ((history ++ c.target?.toList).map Binding.keys).Nodup := by
  rcases p.call_cases hc with ⟨b, htarget, hcall, -, hvalid, -⟩ | ⟨marker, rfl⟩ |
    ⟨provision, e, rfl, hq⟩
  · rw [hcall, (h.register b).1, verdict_eq_ok_iff_keys, hvalid, htarget]
    simp [List.nodup_append, hnodup]
  · have hresult : (p.call (.declare marker)).result = .ok () := rfl
    simp [hresult, hnodup, Call.isInvalid, Call.target?]
  · have hinvalid := (answer_of_error (p := p) hq provision.capability none).2.2.2
    have hresult : (p.call (.provide provision)).result = .error e := by
      simp only [call, provide_of_error hq]
    simp [hresult, hinvalid]

/-- Single calls are accepted exactly if none is an unsound provision and no two bindings, of those
that the index records and those that the calls target, are for one slot. -/
theorem acceptsAll_iff_nodup {p : Pass} {history : List Binding} (h : p.index.Records history)
    (hnodup : (history.map Binding.keys).Nodup) {calls : List Call}
    (hsingle : ∀ c ∈ calls, c.isSingle = true) :
    p.AcceptsAll calls ↔ (∀ c ∈ calls, c.isInvalid = false) ∧
      ((history ++ targets calls).map Binding.keys).Nodup := by
  induction calls generalizing p history with
  | nil => simpa [acceptsAll_nil, targets] using hnodup
  | cons c rest ih =>
    obtain ⟨hc, hrest⟩ := List.forall_mem_cons.1 hsingle
    have htargets : targets (c :: rest) = c.target?.toList ++ targets rest := by
      unfold targets
      rw [List.filterMap_cons]
      cases c.target? <;> rfl
    rw [acceptsAll_cons, call_eq_ok_iff_nodup h hnodup hc, List.forall_mem_cons, htargets,
      ← List.append_assoc]
    constructor
    · rintro ⟨⟨hvalid, hnext⟩, hall⟩
      obtain ⟨hvalidRest, hnodupRest⟩ := (ih (h.call hc) hnext hrest).1 hall
      exact ⟨⟨hvalid, hvalidRest⟩, hnodupRest⟩
    · rintro ⟨⟨hvalid, hvalidRest⟩, hnodupRest⟩
      have hnext : ((history ++ c.target?.toList).map Binding.keys).Nodup := by
        rw [List.map_append] at hnodupRest
        exact (List.nodup_append.1 hnodupRest).1
      exact ⟨⟨hvalid, hnext⟩, (ih (h.call hc) hnext hrest).2 ⟨hvalidRest, hnodupRest⟩⟩

end Pass

end Wiring
