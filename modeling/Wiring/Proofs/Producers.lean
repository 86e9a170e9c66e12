import Wiring.Proofs.Rebuild

/-!
  Producers that declare through one session.

  A `Crew` is a session that several producers share, and what each of them has still to call.  A
  call holds the session for its whole duration, so the producers take turns: `Crew.turn` lets one
  of them make its next call, and a schedule says whose turn it is each time.

  A turn takes a call off what waits and makes it (`Crew.Played.turn`), so a finished schedule has
  made all calls in some order (`Crew.Played.perm_of_isDone`).  Where all of them are accepted, no
  two of the bindings that they try are for one slot, modules included; that holds in any order, so
  every other schedule is accepted too and comes to the same pass (`Pass.after_of_perm`).

  Main statement: `Crew.schedule_makes_no_difference`.
-/

namespace Wiring

/-! ## Taking turns -/

/-- A session that producers share, what each producer has still to call, and the answers so far. -/
structure Crew where
  session : Session
  waiting : List (List Pass.Call)
  answers : List Pass.Answer

namespace Crew

/-- Producers before their first call. -/
def gather (session : Session) (producers : List (List Pass.Call)) : Crew :=
  ⟨session, producers, []⟩

/-- One producer makes its next call.  Nothing happens if it has none left. -/
def turn (crew : Crew) (producer : Nat) : Crew :=
  match crew.waiting[producer]? with
  | some (c :: rest) =>
    let (session, answer) := crew.session.call c
    ⟨session, crew.waiting.set producer rest, crew.answers ++ [⟨c, answer.value⟩]⟩
  | _ => crew

/-- The producers make their calls in the order of a schedule. -/
def run (crew : Crew) (schedule : List Nat) : Crew := schedule.foldl turn crew

/-- No producer has a call left. -/
def IsDone (crew : Crew) : Prop := ∀ calls ∈ crew.waiting, calls = []

instance (crew : Crew) : Decidable crew.IsDone :=
  inferInstanceAs (Decidable (∀ calls ∈ crew.waiting, calls = []))

end Crew

/-! ## What a schedule has made of the calls -/

/-- A list with one element taken off one of its parts. -/
theorem perm_flatten_set {α : Type} {parts : List (List α)} {i : Nat} {a : α} {rest : List α}
    (h : parts[i]? = some (a :: rest)) :
    parts.flatten.Perm (a :: (parts.set i rest).flatten) := by
  induction parts generalizing i with
  | nil => simp at h
  | cons part parts ih =>
    cases i with
    | zero =>
      obtain rfl : part = a :: rest := by simpa using h
      simp
    | succ i =>
      have hparts := ih (by simpa using h)
      rw [List.set_cons_succ, List.flatten_cons, List.flatten_cons]
      exact (hparts.append_left part).trans List.perm_middle

namespace Pass

theorem answers_concat (p : Pass) (calls : List Call) (c : Call) :
    p.answers (calls ++ [c]) = p.answers calls ++ [(p.after calls).answer c] := by
  induction calls generalizing p with
  | nil => rfl
  | cons first rest ih =>
    rw [List.cons_append, answers_cons, answers_cons, ih, after_cons, List.cons_append]

theorem map_call_answers (p : Pass) (calls : List Call) :
    (p.answers calls).map Answer.call = calls := by
  induction calls generalizing p with
  | nil => rfl
  | cons c rest ih => rw [answers_cons, List.map_cons, ih, answer]

end Pass

namespace Crew

variable {session : Session} {producers : List (List Pass.Call)} {crew : Crew}
  {calls : List Pass.Call}

/-- The producers have made some calls one after the other, and these and the calls that wait are
all that there were. -/
structure Played (session : Session) (producers : List (List Pass.Call)) (crew : Crew)
    (calls : List Pass.Call) : Prop where
  session_eq : crew.session = { session with pass := session.pass.after calls }
  answers_eq : crew.answers = session.pass.answers calls
  perm : (calls ++ crew.waiting.flatten).Perm producers.flatten

theorem played_gather (session : Session) (producers : List (List Pass.Call)) :
    Played session producers (gather session producers) [] := ⟨rfl, rfl, .refl _⟩

/-- A turn adds a call to those made, or none. -/
theorem Played.turn (h : Played session producers crew calls) (producer : Nat) :
    ∃ made, Played session producers (crew.turn producer) made := by
  unfold Crew.turn
  split
  · rename_i c rest hnext
    refine ⟨calls ++ [c], ?_, ?_, ?_⟩
    · simp only [Session.call, h.session_eq, Pass.after_append]
      rfl
    · simp only [Session.call, h.session_eq, h.answers_eq, Pass.answers_concat]
      rfl
    · rw [List.append_assoc]
      exact ((perm_flatten_set hnext).symm.append_left calls).trans h.perm
  · exact ⟨calls, h⟩

theorem Played.run (h : Played session producers crew calls) (schedule : List Nat) :
    ∃ made, Played session producers (crew.run schedule) made := by
  induction schedule generalizing crew calls with
  | nil => exact ⟨calls, h⟩
  | cons producer rest ih =>
    obtain ⟨made, hmade⟩ := h.turn producer
    exact ih hmade

theorem Played.perm_of_isDone (h : Played session producers crew calls) (hdone : crew.IsDone) :
    calls.Perm producers.flatten := by
  have hperm := h.perm
  rwa [List.flatten_eq_nil_iff.2 hdone, List.append_nil] at hperm

end Crew

/-! ## Accepted runs in another order -/

namespace Pass

variable {p : Pass} {calls calls' : List Call}

theorem singles_perm (hperm : calls.Perm calls') : (singles calls).Perm (singles calls') :=
  hperm.flatMap_right _

/-- In a sound pass, a run is accepted exactly if it makes no unsound provision and no two bindings,
of those there and those tried, are for one slot. -/
theorem Sound.acceptsAll_iff (h : p.Sound) :
    p.AcceptsAll calls ↔ (∀ c ∈ singles calls, c.isInvalid = false) ∧
      ((p.index.bindings ++ targets (singles calls)).map Binding.keys).Nodup := by
  rw [← acceptsAll_singles_iff]
  exact acceptsAll_iff_nodup h.index.records_bindings h.index.nodup_keys isSingle_of_mem_singles

theorem acceptsAll_of_perm (h : p.Sound) (hperm : calls.Perm calls') (hall : p.AcceptsAll calls) :
    p.AcceptsAll calls' := by
  have hsingles : (singles calls).Perm (singles calls') := singles_perm hperm
  have htargets : (targets (singles calls)).Perm (targets (singles calls')) :=
    hsingles.filterMap Call.target?
  obtain ⟨hvalid, hnodup⟩ := h.acceptsAll_iff.1 hall
  refine h.acceptsAll_iff.2 ⟨fun c hc => hvalid c (hsingles.mem_iff.2 hc), ?_⟩
  exact ((htargets.append_left p.index.bindings).map Binding.keys).nodup_iff.1 hnodup

/-- An accepted run comes to the same pass in any other order. -/
theorem after_of_perm (h : p.Sound) (hperm : calls.Perm calls') (hall : p.AcceptsAll calls) :
    p.after calls' = p.after calls := by
  have hall' : p.AcceptsAll calls' := acceptsAll_of_perm h hperm hall
  have hsingles : (singles calls).Perm (singles calls') := singles_perm hperm
  have hsingle : ∀ c ∈ singles calls, c.isSingle = true := isSingle_of_mem_singles
  have hrecords := records_after h.index.records_bindings hsingle
  have hrecords' := records_after h.index.records_bindings (isSingle_of_perm hsingles hsingle)
  have hnodup := (h.acceptsAll_iff.1 hall).2
  have hindex : (p.after (singles calls)).index = (p.after (singles calls')).index :=
    hrecords.eq_of_perm hrecords' hnodup
      ((hsingles.filterMap Call.target?).append_left p.index.bindings)
  rw [← after_singles hall, ← after_singles hall', Pass.mk.injEq]
  exact ⟨(checks_of_perm hsingles hsingle).symm, hindex.symm,
    (markers_of_perm hsingles hsingle).symm⟩

end Pass

namespace Crew

/-- **The schedule makes no difference to producers that do not conflict.**  Some producers share a
session, wherever it has come to, and two schedules let them make all their calls, whole modules
among them.  If every call is accepted under the first schedule, every call is accepted under the
second one, and a build afterwards has the same registry or the same mistake, and leaves the same
session. -/
theorem schedule_makes_no_difference (checks : Checks) (registry : Registry)
    (earlier : List Session.Step) (producers : List (List Pass.Call))
    {schedule schedule' : List Nat} :
    let crew := gather (Session.Progress.after checks registry earlier).session producers
    (crew.run schedule).IsDone → (crew.run schedule').IsDone →
      (∀ a ∈ (crew.run schedule).answers, a.result = .ok ()) →
      ((crew.run schedule').answers.map Pass.Answer.call).Perm producers.flatten ∧
        (∀ a ∈ (crew.run schedule').answers, a.result = .ok ()) ∧
        (crew.run schedule').session.build = (crew.run schedule).session.build := by
  intro crew hdone hdone' haccepted
  have hsound : crew.session.pass.Sound := Session.Progress.sound_after checks registry earlier
  obtain ⟨made, hmade⟩ := (played_gather crew.session producers).run schedule
  obtain ⟨made', hmade'⟩ := (played_gather crew.session producers).run schedule'
  have hperm' : made'.Perm producers.flatten := hmade'.perm_of_isDone hdone'
  have hperm : made.Perm made' := (hmade.perm_of_isDone hdone).trans hperm'.symm
  have hall : crew.session.pass.AcceptsAll made := by
    unfold Pass.AcceptsAll
    rw [← hmade.answers_eq]
    exact haccepted
  have hanswers : (crew.run schedule').answers = crew.session.pass.answers made' :=
    hmade'.answers_eq
  have hsession : (crew.run schedule').session = (crew.run schedule).session := by
    have hpass := Pass.after_of_perm hsound hperm hall
    have hfirst : (crew.run schedule).session = _ := hmade.session_eq
    have hsecond : (crew.run schedule').session = _ := hmade'.session_eq
    rw [hfirst, hsecond, hpass]
  refine ⟨?_, ?_, congrArg Session.build hsession⟩
  · rw [hanswers, Pass.map_call_answers]
    exact hperm'
  · rw [hanswers]
    exact Pass.acceptsAll_of_perm hsound hperm hall

/-- One producer adds a module, and another one binds the same capability and declares a marker. -/
def twoProducers : List (List Pass.Call) :=
  [[.addModule ((Module.declare {} "Red").provide
      ((Provision.ofNames "Oak" "Door").qualifiedBy "@ Red"))],
    [.register (.ofString "Door") none (.ofString "Elm"), .declare "Blue"]]

/-- The module can come before the other producer's calls or between them. -/
theorem schedule_makes_no_difference_twoProducers :
    let crew := gather (Session.Progress.after {} {} []).session twoProducers
    (∀ a ∈ (crew.run [1, 0, 1]).answers, a.result = .ok ()) ∧
      (crew.run [1, 0, 1]).session.build = (crew.run [0, 1, 1]).session.build := by
  have haccepted : ∀ a ∈ ((gather (Session.Progress.after {} {} []).session twoProducers).run
      [0, 1, 1]).answers, a.result = .ok () := by
    decide +kernel
  exact (schedule_makes_no_difference {} {} [] twoProducers (by decide +kernel) (by decide +kernel)
    haccepted).2

end Crew

end Wiring
