import Wiring.Proofs.Calls
import Wiring.Proofs.Listing
import Wiring.Proofs.Reachable

/-!
  What a run reports, against what it does.

  A step reports the bindings that it accepts, one by one, and its error last if it is refused.
  `Outcome.Accounts` says so, by the attempts of the step, and it says which bindings are new.  Both
  are proved together, since a module goes through the same provisions for either
  (`Pass.accounts_call`).  The warning of a step tells why it was refused (`Pass.warnings_call`).
  Over a run the reports and the new bindings add up (`Pass.filter_log`,
  `Pass.perm_bindings_after`), so what a build counts can be read off the log.

  Main statement: `Pass.log_accounts_for_run`.
-/

namespace Wiring

/-! ## Accepted attempts -/

/-- The bindings of the attempts that were accepted, in order. -/
def accepted (attempts : List Attempt) : List Binding :=
  (attempts.filter (·.result.isOk)).map Attempt.binding

theorem accepted_append (attempts more : List Attempt) :
    accepted (attempts ++ more) = accepted attempts ++ accepted more := by
  unfold accepted
  rw [List.filter_append, List.map_append]

/-! ## Events by what they show -/

namespace Event

/-- Whether an event is shown with a severity and a text. -/
def shows (severity : Severity) (message : String) (event : Event) : Bool :=
  event.severity = severity && event.message = message

/-- The warning about a declaration that is refused: its slot is taken, or it is not sound. -/
def ofRefusal : BindError → Event
  | .boundTwice c q existing duplicate => .bindingRejected (.boundTwice c q existing duplicate)
  | e => .provisionRejected e

/-- The warning that goes with an answer, if there is one. -/
def warnings : Except BindError Unit → List Event
  | .ok () => []
  | .error e => [.ofRefusal e]

theorem severity_ofRefusal (e : BindError) : (ofRefusal e).severity = .warning := by
  cases e <;> rfl

theorem fields_ofRefusal (e : BindError) : (ofRefusal e).fields = [("error", .text e.message)] := by
  cases e <;> rfl

theorem ofRefusal_of_qualifier {provision : Provision} {e : BindError}
    (h : provision.qualifier = .error e) : ofRefusal e = .provisionRejected e := by
  cases e with
  | boundTwice c q existing duplicate =>
    exact absurd h (Pass.qualifier_ne_boundTwice provision c q existing duplicate)
  | _ => rfl

/-- Of what a step reports, the warnings are what goes with its answer. -/
theorem filter_warning (bs : List Binding) (result : Except BindError Unit) :
    (bs.map registered ++ warnings result).filter (·.severity = .warning) = warnings result := by
  have hregistered : (bs.map registered).filter (·.severity = .warning) = [] := by
    simp [severity]
  rw [List.filter_append, hregistered, List.nil_append]
  cases result with
  | ok _ => rfl
  | error e => simp [warnings, severity_ofRefusal]

/-- Of what a step reports, the registrations are the bindings that it accepts. -/
theorem filter_registered (bs : List Binding) (result : Except BindError Unit) :
    (bs.map registered ++ warnings result).filter (·.shows .debug "registered binding") =
      bs.map registered := by
  have hregistered : (bs.map registered).filter (·.shows .debug "registered binding") =
      bs.map registered := by
    simp [shows, severity, message]
  rw [List.filter_append, hregistered]
  cases result with
  | ok _ => simp [warnings]
  | error e => simp [warnings, shows, severity_ofRefusal]

end Event

/-! ## One step -/

namespace Outcome

/-- What a step reports and binds, by the attempts that it makes. -/
structure Accounts (p : Pass) (attempts : List Attempt) (o : Outcome) : Prop where
  /-- The accepted bindings are reported in order, and then the error if there is one. -/
  events : o.events = (accepted attempts).map .registered ++ Event.warnings o.result
  /-- The accepted bindings are the new ones. -/
  bindings : o.pass.index.bindings.Perm (p.index.bindings ++ accepted attempts)

/-- The slot for which a binding was refused holds another one. -/
def Taken (o : Outcome) (e : BindError) : Prop :=
  ∃ c q existing duplicate, existing ∈ o.pass.index.slot c q ∧
    e = .boundTwice c q existing.implementation duplicate

theorem Accounts.andThen {p : Pass} {attempts more : List Attempt} {o : Outcome}
    {next : Pass → Outcome} (h : o.Accounts p attempts) (hok : o.result = .ok ())
    (hnext : (next o.pass).Accounts o.pass more) :
    (o.andThen next).Accounts p (attempts ++ more) := by
  have heq : o.andThen next = { next o.pass with events := o.events ++ (next o.pass).events } := by
    unfold Outcome.andThen
    rw [hok]
  rw [heq]
  constructor
  · rw [h.events, hnext.events, hok, accepted_append, List.map_append]
    simp [Event.warnings]
  · rw [accepted_append, ← List.append_assoc]
    exact hnext.bindings.trans (h.bindings.append_right _)

end Outcome

namespace Pass

theorem accounts_nil {p : Pass} {o : Outcome} (hindex : o.pass.index = p.index)
    (hevents : o.events = Event.warnings o.result) : o.Accounts p [] where
  events := hevents
  bindings := by
    rw [hindex]
    simp [accepted]

theorem accounts_register {p : Pass} (hp : p.index.Sound) (c : TypeName) (q : Option Qualifier)
    (impl : TypeName) :
    (p.register c q impl).Accounts p [⟨⟨c, q, impl⟩, (p.register c q impl).result⟩] := by
  cases hslot : p.index.slot c q with
  | nil =>
    rw [register_of_free impl hslot]
    refine ⟨rfl, ?_⟩
    exact (hp.perm_bindings_add (b := ⟨c, q, impl⟩) hslot).trans
      (List.perm_append_singleton _ _).symm
  | cons existing rest =>
    rw [register_of_taken impl hslot]
    refine ⟨rfl, ?_⟩
    change p.index.bindings.Perm (p.index.bindings ++ [])
    rw [List.append_nil]

theorem accounts_provide {p : Pass} (hp : p.index.Sound) (provision : Provision) :
    (p.provide provision).Accounts p (p.attemptOf provision) := by
  unfold attemptOf
  cases hq : provision.qualifier with
  | error e =>
    rw [provide_of_error hq]
    refine accounts_nil rfl ?_
    rw [Event.warnings, Event.ofRefusal_of_qualifier hq]
  | ok q =>
    rw [provide_of_ok hq]
    exact accounts_register hp provision.capability q provision.implementation

theorem accounts_provideAll {p : Pass} (hp : p.Sound) (provisions : List Provision) :
    (p.provideAll provisions).Accounts p (p.attemptsOfAll provisions) := by
  induction provisions generalizing p with
  | nil => exact accounts_nil rfl rfl
  | cons provision rest ih =>
    have hfirst := accounts_provide hp.index provision
    unfold attemptsOfAll
    cases hresult : (p.provide provision).result with
    | error e =>
      rw [provideAll_of_error hresult]
      simpa only [hresult, List.append_nil] using hfirst
    | ok _ =>
      have hnext : (p.provide provision).pass.Sound := kept_sound.provide hp fun _ _ => trivial
      exact hfirst.andThen hresult (ih hnext)

/-- **A call reports what it binds**, and its error if it is refused. -/
theorem accounts_call {p : Pass} (hp : p.Sound) (c : Call) :
    (p.call c).Accounts p (p.attemptsOf c) := by
  cases c with
  | register c q impl => exact accounts_register hp.index c q impl
  | provide provision => exact accounts_provide hp.index provision
  | declare marker => exact accounts_nil rfl rfl
  | addModule m =>
    have hmarkers : (m.markers.toList.foldl withMarker p).Sound :=
      kept_sound.withMarkers hp m.markers.toList
    have hindex : (m.markers.toList.foldl withMarker p).index = p.index := by
      rw [foldl_withMarker]
    obtain ⟨hevents, hbindings⟩ := accounts_provideAll hmarkers m.provisions
    rw [hindex] at hbindings
    exact ⟨hevents, hbindings⟩

/-! ## Why a step is refused -/

/-- The provisions that a call is to make. -/
def Call.provisions : Call → List Provision
  | .register _ _ _ => []
  | .provide provision => [provision]
  | .declare _ => []
  | .addModule m => m.provisions

theorem taken_of_register {p : Pass} {c : TypeName} {q : Option Qualifier} {impl : TypeName}
    {e : BindError} (h : (p.register c q impl).result = .error e) :
    (p.register c q impl).Taken e := by
  cases hslot : p.index.slot c q with
  | nil =>
    rw [register_of_free impl hslot] at h
    cases h
  | cons existing rest =>
    rw [register_of_taken impl hslot] at h ⊢
    cases h
    exact ⟨c, q, existing, impl, by simp [hslot], rfl⟩

theorem refused_provide {p : Pass} {provision : Provision} {e : BindError}
    (h : (p.provide provision).result = .error e) :
    provision.qualifier = .error e ∨ (p.provide provision).Taken e := by
  cases hq : provision.qualifier with
  | error e' =>
    rw [provide_of_error hq] at h
    cases h
    exact .inl rfl
  | ok q =>
    rw [provide_of_ok hq] at h ⊢
    exact .inr (taken_of_register h)

theorem refused_provideAll {p : Pass} {provisions : List Provision} {e : BindError}
    (h : (p.provideAll provisions).result = .error e) :
    (∃ provision ∈ provisions, provision.qualifier = .error e) ∨
      (p.provideAll provisions).Taken e := by
  induction provisions generalizing p with
  | nil => cases h
  | cons provision rest ih =>
    cases hresult : (p.provide provision).result with
    | error e' =>
      rw [provideAll_of_error hresult] at h ⊢
      rcases refused_provide h with hq | htaken
      · exact .inl ⟨provision, List.mem_cons_self, hq⟩
      · exact .inr htaken
    | ok _ =>
      rw [provideAll_of_ok hresult] at h ⊢
      rcases ih h with ⟨other, hmem, hq⟩ | htaken
      · exact .inl ⟨other, List.mem_cons_of_mem _ hmem, hq⟩
      · exact .inr htaken

theorem refused_call {p : Pass} {c : Call} {e : BindError} (h : (p.call c).result = .error e) :
    (∃ provision ∈ c.provisions, provision.qualifier = .error e) ∨ (p.call c).Taken e := by
  cases c with
  | register c q impl => exact .inr (taken_of_register h)
  | provide provision =>
    refine (refused_provide h).imp_left fun hq => ?_
    exact ⟨provision, List.mem_singleton_self provision, hq⟩
  | declare marker => cases h
  | addModule m => exact refused_provideAll h

theorem not_taken_of_qualifier {provision : Provision} {e : BindError}
    (h : provision.qualifier = .error e) (o : Outcome) : ¬ o.Taken e := by
  rintro ⟨c, q, existing, duplicate, -, rfl⟩
  exact qualifier_ne_boundTwice provision c q existing.implementation duplicate h

/-- **A call warns of its refusal** and of nothing else: as a rejected provision if a provision is
not sound, and as a rejected binding if the slot is taken. -/
theorem warnings_call {p : Pass} (hp : p.Sound) (c : Call) :
    let o := p.call c
    let warned := o.events.filter (·.severity = .warning)
    (o.result = .ok () → warned = []) ∧
      ∀ e, o.result = .error e → ∃ w, warned = [w] ∧ w.fields = [("error", .text e.message)] ∧
        let unsound := ∃ provision ∈ c.provisions, provision.qualifier = .error e
        (w.message = "rejected provision" ∧ unsound ∧ ¬ o.Taken e ∨
          w.message = "rejected binding" ∧ o.Taken e ∧ ¬ unsound) := by
  intro o warned
  have hwarned : warned = Event.warnings o.result := by
    change o.events.filter _ = _
    rw [(accounts_call hp c).events, Event.filter_warning]
  rw [hwarned]
  constructor
  · intro hok
    rw [hok, Event.warnings]
  · intro e he
    refine ⟨.ofRefusal e, by rw [he, Event.warnings], Event.fields_ofRefusal e, ?_⟩
    rcases refused_call he with ⟨provision, hmem, hq⟩ | htaken
    · refine .inl ⟨?_, ⟨provision, hmem, hq⟩, not_taken_of_qualifier hq o⟩
      rw [Event.ofRefusal_of_qualifier hq, Event.message]
    · refine .inr ⟨?_, htaken, ?_⟩
      · obtain ⟨_, _, _, _, -, rfl⟩ := htaken
        rfl
      · rintro ⟨provision, -, hq⟩
        exact not_taken_of_qualifier hq o htaken

/-! ## A run -/

/-- The attempts of some calls, made one after the other. -/
def attempts (p : Pass) : List Call → List Attempt
  | [] => []
  | c :: rest => p.attemptsOf c ++ (p.call c).pass.attempts rest

/-- What some calls report, made one after the other. -/
def log (p : Pass) : List Call → List Event
  | [] => []
  | c :: rest => (p.call c).events ++ (p.call c).pass.log rest

theorem log_append (p : Pass) (calls more : List Call) :
    p.log (calls ++ more) = p.log calls ++ (p.after calls).log more := by
  induction calls generalizing p with
  | nil => rfl
  | cons c rest ih =>
    rw [List.cons_append, log, log, after_cons, ih, List.append_assoc]

theorem filter_log {p : Pass} (hp : p.Sound) (calls : List Call) :
    (p.log calls).filter (·.shows .debug "registered binding") =
      (accepted (p.attempts calls)).map .registered := by
  induction calls generalizing p with
  | nil => rfl
  | cons c rest ih =>
    have hnext : (p.call c).pass.Sound := kept_sound.call hp c.tries_true
    rw [log, attempts, List.filter_append, ih hnext, (accounts_call hp c).events,
      Event.filter_registered, accepted_append, List.map_append]

theorem perm_bindings_after {p : Pass} (hp : p.Sound) (calls : List Call) :
    (p.after calls).index.bindings.Perm
      (p.index.bindings ++ accepted (p.attempts calls)) := by
  induction calls generalizing p with
  | nil => simp [after, attempts, accepted]
  | cons c rest ih =>
    have hnext : (p.call c).pass.Sound := kept_sound.call hp c.tries_true
    rw [after_cons, attempts, accepted_append, ← List.append_assoc]
    exact (ih hnext).trans ((accounts_call hp c).bindings.append_right _)

end Pass

/-! ## What a build counts -/

theorem Index.Sound.length_boundCapabilities {i : Index} (hi : i.Sound) :
    i.boundCapabilities.length = (i.bindings.map Binding.capability).toFinset.card := by
  have hnodup : i.boundCapabilities.Nodup := by
    refine i.pairwise_boundCapabilities.imp ?_
    rintro c c' hlt rfl
    simp at hlt
  rw [← List.toFinset_card_of_nodup hnodup]
  congr 1
  ext c
  simp only [List.mem_toFinset, mem_boundCapabilities_iff, List.mem_map, mem_bindings_iff]
  constructor
  · rintro ⟨q, hq⟩
    obtain ⟨b, hb⟩ := List.exists_mem_of_ne_nil _ hq
    exact ⟨b, ⟨c, q, hb⟩, (hi.keyed c q b hb).1⟩
  · rintro ⟨b, ⟨c', q, hb⟩, rfl⟩
    rw [(hi.keyed c' q b hb).1]
    exact ⟨q, List.ne_nil_of_mem hb⟩

/-- The registrations in a log show as many capabilities as there are. -/
theorem card_shown_capabilities (bs : List Binding) :
    ((bs.map Event.registered).map (·.fields.lookup "capability")).toFinset.card =
      (bs.map Binding.capability).toFinset.card := by
  have hinjective : Function.Injective fun c : TypeName => some (FieldValue.text c.text) := by
    intro c c' h
    exact TypeName.ext (by simpa using h)
  have hshown : (bs.map Event.registered).map (·.fields.lookup "capability") =
      (bs.map Binding.capability).map fun c => some (FieldValue.text c.text) := by
    simp [Event.fields, Event.capabilityField, Function.comp_def]
  rw [hshown, List.card_toFinset, List.card_toFinset, List.dedup_map_of_injective hinjective,
    List.length_map]

namespace Pass

theorem events_buildLogged (p : Pass) :
    ∃ event, p.buildLogged.events = [event] ∧
      match p.build with
      | .error e => event.severity = .warning ∧ event.message = "registry rejected" ∧
          event.fields = [("error", .text e.message)]
      | .ok _ => event.severity = .debug ∧ event.message = "built registry" ∧
          event.fields = [("capabilities", .count p.index.boundCapabilities.length),
            ("bindings", .count p.index.bindings.length)] := by
  unfold build buildLogged
  cases p.index.mistake? p.checks p.markers with
  | some e => exact ⟨_, rfl, rfl, rfl, rfl⟩
  | none => exact ⟨_, rfl, rfl, rfl, rfl⟩

/-- **The log accounts for a run.**  On a pass without declarations, let some calls be made, refused
or not, and then a build.

  * The registrations that the log shows have, in order, the texts of just the bindings that were
    accepted, which are all that the pass then holds; those that a module made before its first
    mistake are among them.
  * The log is made up of what each call reports.  A call that is accepted warns of nothing.  One
    that is refused warns once, with the text of its error: as a rejected provision if a provision
    is not sound, and as a rejected binding if the slot is taken.  Declaring a marker reports
    nothing.
  * The build reports one thing: the text of its error as a warning, or the number of the
    registrations in the log and of the different capabilities that they show. -/
theorem log_accounts_for_run (checks : Checks) (calls : List Call) :
    let registered :=
      ((start checks).log calls).filter (·.shows .debug "registered binding")
    registered.map Event.fields = (accepted ((start checks).attempts calls)).map (fun b =>
      [("capability", .text b.capability.text),
        ("qualifier", .text (Qualifier.describe b.qualifier)),
        ("implementation", .text b.implementation.text)]) ∧
    ((start checks).after calls).index.bindings.Perm (accepted ((start checks).attempts calls)) ∧
    (∀ before c after, calls = before ++ c :: after →
      let o := ((start checks).after before).call c
      let warned := o.events.filter (·.severity = .warning)
      (start checks).log calls = (start checks).log before ++ (o.events ++ o.pass.log after) ∧
      (o.result = .ok () → warned = []) ∧
      (∀ e, o.result = .error e → ∃ w, warned = [w] ∧ w.fields = [("error", .text e.message)] ∧
        let unsound := ∃ provision ∈ c.provisions, provision.qualifier = .error e
        (w.message = "rejected provision" ∧ unsound ∧ ¬ o.Taken e ∨
          w.message = "rejected binding" ∧ o.Taken e ∧ ¬ unsound)) ∧
      ∀ marker, c = .declare marker → o.events = []) ∧
    ∃ event, ((start checks).after calls).buildLogged.events = [event] ∧
      match ((start checks).after calls).build with
      | .error e => event.severity = .warning ∧ event.message = "registry rejected" ∧
          event.fields = [("error", .text e.message)]
      | .ok _ => event.severity = .debug ∧ event.message = "built registry" ∧
          event.fields =
            [("capabilities", .count (registered.map (·.fields.lookup "capability")).toFinset.card),
              ("bindings", .count registered.length)] := by
  intro registered
  have hregistered : registered = (accepted ((start checks).attempts calls)).map .registered :=
    filter_log (sound_start checks) calls
  have hperm := perm_bindings_after (sound_start checks) calls
  rw [show (start checks).index.bindings = [] from rfl, List.nil_append] at hperm
  refine ⟨?_, hperm, ?_, ?_⟩
  · rw [hregistered, List.map_map]
    rfl
  · intro before c after hcalls o warned
    have hsound : ((start checks).after before).Sound :=
      kept_sound.after (sound_start checks) fun c _ => c.tries_true
    obtain ⟨haccepted, hrefused⟩ := warnings_call hsound c
    refine ⟨by rw [hcalls, log_append, log], haccepted, hrefused, ?_⟩
    rintro marker rfl
    rfl
  · have hsound : ((start checks).after calls).index.Sound :=
      (kept_sound.after (sound_start checks) fun c _ => c.tries_true).index
    have hcapabilities := hsound.length_boundCapabilities
    rw [List.toFinset_eq_of_perm _ _ (hperm.map _), ← card_shown_capabilities,
      ← hregistered] at hcapabilities
    have hsize : ((start checks).after calls).index.bindings.length = registered.length := by
      rw [hperm.length_eq, hregistered, List.length_map]
    rw [← hcapabilities, ← hsize]
    exact events_buildLogged _

/-- A module whose second provision is for the slot of the first. -/
def brokenModule : Call :=
  .addModule { provisions := [.ofNames "Oak" "Door", .ofNames "Elm" "Door", .ofNames "Ash" "Wall"] }

/-- The log shows the provision before the mistake, and it warns of the mistake. -/
theorem log_accounts_for_run_brokenModule :
    (((start {}).log [brokenModule]).filter (·.shows .debug "registered binding")).map
        Event.fields =
        [[("capability", .text "Door"), ("qualifier", .text "<unqualified>"),
          ("implementation", .text "Oak")]] ∧
      ∃ w, ((start {}).call brokenModule).events.filter (·.severity = .warning) = [w] ∧
        w.message = "rejected binding" := by
  have haccepted : accepted ((start {}).attempts [brokenModule]) =
      [⟨.ofString "Door", none, .ofString "Oak"⟩] := by decide +kernel
  have hresult : ((start {}).call brokenModule).result =
      .error (.boundTwice (.ofString "Door") none (.ofString "Oak") (.ofString "Elm")) := by cbv
  obtain ⟨hregistered, -, hcalls, -⟩ := log_accounts_for_run {} [brokenModule]
  obtain ⟨-, -, hrefused, -⟩ := hcalls [] brokenModule [] rfl
  obtain ⟨w, hw, -, hcause⟩ := hrefused _ hresult
  refine ⟨?_, w, hw, ?_⟩
  · rw [hregistered, haccepted]
    decide +kernel
  · rcases hcause with ⟨-, ⟨provision, -, hunsound⟩, -⟩ | ⟨hmessage, -⟩
    · exact absurd hunsound (qualifier_ne_boundTwice _ _ _ _ _)
    · exact hmessage

end Pass

end Wiring
