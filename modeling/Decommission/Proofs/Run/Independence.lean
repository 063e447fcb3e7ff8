import Decommission.Config.Basic
import Decommission.FileSystem.Arrange
import Decommission.Proofs.Control.Labels
import Decommission.Proofs.Run.Events
import Decommission.Proofs.Run.Parallel
import Decommission.Proofs.Run.Rounds
import Decommission.Proofs.Run.Stopping
import Decommission.Rehearsal.Time

/-!
# Services are stopped independently

When a manager keeps its services apart, each service is stopped just as it would be if it were the
only one: the same calls are made for it, with the same answers, and they end with the same report.
So the order in which services with different labels are stopped makes no difference.  This is for
policies without a timeout, which is the only thing that a service waits for but its manager.
-/

namespace Decommission

variable {σ τ α : Type}

/-! ## Calls in events -/

/-- The call that an event tells of. -/
def Event.call? : Event → Option Call
  | .listed service _ => some (.query service)
  | .disabled service _ => some (.disable service)
  | .bootedOut service _ => some (.bootOut service)
  | _ => none

/-- The event tells of a call for this label. -/
def Event.isFor (label : String) (event : Event) : Bool :=
  event.call?.any (·.service.label = label)

/-- The calls for one label, with their answers. -/
def eventsFor (label : String) (events : List Event) : List Event :=
  events.filter (Event.isFor label)

namespace Act

/-- What has become of the manager is due to the calls in the events. -/
def Calls (manager : Manager σ) (first : Scene σ τ) (events : List Event) (last : Scene σ τ) :
    Prop :=
  ∃ history : History, history.map Prod.fst = events.filterMap Event.call? ∧
    last.manager = manager.after first.manager history

theorem stopLaw_calls (manager : Manager σ) (clock : Clock τ) :
    StopLaw manager clock (Calls manager) where
  nothing _ := ⟨[], rfl, rfl⟩
  append := by
    rintro first middle last events more ⟨history, hevents, hmiddle⟩ ⟨later, hmore, hlast⟩
    refine ⟨history ++ later, ?_, ?_⟩
    · rw [List.map_append, List.filterMap_append, hevents, hmore]
    · rw [Manager.after_append, ← hmiddle, hlast]
  moved _ hlast := hlast
  said _ _ := ⟨[], rfl, rfl⟩
  trapped _ _ := ⟨[], rfl, rfl⟩
  told _ := ⟨[], rfl, rfl⟩
  paused _ _ := ⟨[], rfl, rfl⟩
  listed service scene := ⟨[(.query service, scene.files)], rfl, rfl⟩
  disabled service scene := ⟨[(.disable service, scene.files)], rfl, rfl⟩
  bootedOut service scene := ⟨[(.bootOut service, scene.files)], rfl, rfl⟩

end Act

/-! ## Without signals -/

/-- The clock with the signals taken out. -/
def Clock.quiet (clock : Clock τ) : Clock τ :=
  { clock with pause := fun duration state => (none, (clock.pause duration state).2) }

namespace Act

/-- What is not ended by a signal is the same without signals. -/
theorem extends_pause (clock : Clock τ) (duration : Nat) :
    (pause clock duration : Act σ τ Unit).Extends (∃ signal, · = .signal signal)
      (pause clock.quiet duration) := by
  intro scene hending
  cases hsignal : (clock.pause duration scene.clock).1 with
  | none => simp [pause, Clock.quiet, hsignal]
  | some signal => exact absurd ⟨signal, rfl⟩ (hending (.signal signal) (by simp [pause, hsignal]))

theorem extends_stopRounds_quiet (manager : Manager σ) (clock : Clock τ) (policy : StopPolicy)
    (service : Service) (started rounds : Nat) (report : StopReport) (lastCommand : String) :
    (stopRounds manager clock policy service started rounds report lastCommand).Extends
      (∃ signal, · = .signal signal)
      (stopRounds manager clock.quiet policy service started rounds report lastCommand) := by
  induction rounds generalizing report lastCommand with
  | zero => exact extends_refl _
  | succ rounds ih =>
      refine Extends.bind (extends_refl _) fun loaded => ?_
      split
      · split
        · exact extends_refl _
        · refine Extends.bind (extends_refl _) fun _ => ?_
          refine Extends.bind (extends_refl _) fun _ => ?_
          refine Extends.bind (extends_refl _) fun requested => ?_
          refine Extends.bind (extends_pause clock _) fun _ => ?_
          exact Extends.bind (extends_refl _) fun _ => ih _ _
      · exact extends_refl _

theorem extends_stopAll_quiet (manager : Manager σ) (clock : Clock τ) (policy : StopPolicy)
    (rounds : Nat) (services : List Service) :
    (stopAll manager clock policy rounds services).Extends (∃ signal, · = .signal signal)
      (stopAll manager clock.quiet policy rounds services) := by
  induction services with
  | nil => exact extends_refl _
  | cons service rest ih =>
      have hstop : (stop manager clock policy rounds service).Extends (∃ signal, · = .signal signal)
          (stop manager clock.quiet policy rounds service) :=
        Extends.bind (extends_refl _) fun started =>
          extends_stopRounds_quiet manager clock policy service started rounds {} ""
      exact Extends.bind hstop fun report => Extends.bind ih fun reports => extends_refl _

end Act

/-! ## The same calls before -/

/-- The events tell of the same call and its answer, or neither tells of a call. -/
def Event.SameCall (event other : Event) : Prop :=
  event = other ∨ event.call? = none ∧ other.call? = none

theorem eventsFor_congr {events others : List Event}
    (hevents : List.Forall₂ Event.SameCall events others) (label : String) :
    eventsFor label events = eventsFor label others := by
  induction hevents with
  | nil => rfl
  | @cons event other events others hevent hevents ih =>
      unfold eventsFor at ih ⊢
      obtain rfl | ⟨hnone, hnone'⟩ := hevent
      · rw [List.filter_cons, List.filter_cons, ih]
      · simpa [Event.isFor, hnone, hnone'] using ih

namespace Pairing

/-- Scenes whose managers have come from the same state by the same calls for this label. -/
def ofLabel (manager : Manager σ) (start : σ) (label : String) : Pairing σ σ τ where
  scenes scene second := ∃ history other : History,
    scene.manager = manager.after start history ∧ second.manager = manager.after start other ∧
      history.callsFor label = other.callsFor label
  events := Event.SameCall

variable {manager : Manager σ} {start : σ} {label : String} {clock : Clock τ}

/-- What does not ask the manager makes no difference. -/
theorem relates_quietly {values : α → α → Prop} {act act' : Act σ τ α}
    (hact : ∀ scene second, (ofLabel (τ := τ) manager start label).scenes scene second →
      (act scene).ending.Alike values (act' second).ending ∧
        List.Forall₂ Event.SameCall (act scene).events (act' second).events ∧
        (act scene).scene.manager = scene.manager ∧ (act' second).scene.manager = second.manager) :
    (ofLabel manager start label).Relates values act act' := by
  intro scene second hscenes
  obtain ⟨hending, hevents, hscene, hsecond⟩ := hact scene second hscenes
  refine ⟨hending, hevents, ?_⟩
  obtain ⟨history, other, hfirst, hother, hsame⟩ := hscenes
  exact ⟨history, other, hscene.trans hfirst, hsecond.trans hother, hsame⟩

theorem relates_say_ofLabel (message : String) :
    (ofLabel manager start label).Relates Eq (Act.say clock message) (Act.say clock message) :=
  relates_quietly fun _ _ _ => ⟨.done rfl, .cons (.inr ⟨rfl, rfl⟩) .nil, rfl, rfl⟩

theorem relates_trap_ofLabel {values : α → α → Prop} (caller : Origin) (fault : Fault) :
    (ofLabel manager start label).Relates values (Act.trap clock caller fault)
      (Act.trap clock caller fault) :=
  relates_quietly fun _ _ _ => ⟨.failed fault, .cons (.inr ⟨rfl, rfl⟩) .nil, rfl, rfl⟩

theorem relates_pause_ofLabel (duration : Nat) :
    (ofLabel manager start label).Relates Eq (Act.pause clock.quiet duration)
      (Act.pause clock.quiet duration) :=
  relates_quietly fun _ _ _ => ⟨.done rfl, .cons (.inr ⟨rfl, rfl⟩) .nil, rfl, rfl⟩

theorem relates_now_ofLabel :
    (ofLabel manager start label).Relates (fun _ _ => True) (Act.now clock) (Act.now clock) :=
  relates_quietly fun _ _ _ => ⟨.done trivial, .nil, rfl, rfl⟩

theorem relates_accept_ofLabel (caller : Origin) (answer : Except Fault α) :
    (ofLabel manager start label).Relates Eq (Act.accept clock caller answer)
      (Act.accept clock caller answer) := by
  cases answer with
  | ok value => exact relates_pure rfl
  | error fault => exact relates_trap_ofLabel caller fault

/-- After the same calls for the label, the next one is answered in the same way. -/
theorem relates_ask_ofLabel (hby : manager.IsByLabel start)
    {question : FileSystem → σ → Except Fault α × σ} {event : Except Fault α → Event}
    {reply : Except Fault α → Reply} (call : Call) (hlabel : call.service.label = label)
    (hput : ∀ files state, manager.put call files state =
      (reply (question files state).1, (question files state).2))
    (hreply : Function.Injective reply) :
    (ofLabel manager start label).Relates Eq (Act.ask (τ := τ) question event)
      (Act.ask question event) := by
  subst hlabel
  rintro scene second ⟨history, other, hscene, hsecond, hsame⟩
  have hanswer : (question scene.files scene.manager).1 =
      (question second.files second.manager).1 := by
    have hreplies := hby.reply call scene.files second.files history other hsame
    rw [← hscene, ← hsecond, hput, hput] at hreplies
    exact hreply hreplies
  have hafter (files : FileSystem) (state : σ) (history : History)
      (hstate : state = manager.after start history) :
      (question files state).2 = manager.after start (history ++ [(call, files)]) := by
    rw [Manager.after_append, ← hstate]
    exact (congrArg Prod.snd (hput files state)).symm
  refine ⟨.done hanswer, .cons (.inl (congrArg event hanswer)) .nil, ?_⟩
  refine ⟨_, _, hafter scene.files _ history hscene, hafter second.files _ other hsecond, ?_⟩
  rw [History.callsFor_append, History.callsFor_append, hsame]
  rfl

theorem relates_checkOutput_ofLabel (output : ControlOutput) (races : Count) :
    (ofLabel manager start label).Relates Eq (Act.checkOutput clock output races)
      (Act.checkOutput clock output races) := by
  have hcheck : (ofLabel manager start label).Relates Eq
      (Act.checkCode clock .stopping .stopping output.code output.command)
      (Act.checkCode clock .stopping .stopping output.code output.command) := by
    unfold Act.checkCode
    cases ControlOutcome.ofCode output.code with
    | success | benignRace => exact relates_pure rfl
    | failed code => exact relates_trap_ofLabel _ _
  apply Relates.bind hcheck
  rintro _ _ -
  exact relates_pure rfl

theorem relates_request_ofLabel (hby : manager.IsByLabel start) (service : Service)
    (hlabel : service.label = label) (races : Count) :
    (ofLabel manager start label).Relates Eq (Act.request manager clock service races)
      (Act.request manager clock service races) := by
  have houtput : Function.Injective Reply.output := fun _ _ hsame => Reply.output.inj hsame
  apply Relates.bind (relates_ask_ofLabel hby (.disable service) hlabel (fun _ _ => rfl) houtput)
  rintro answer - rfl
  apply Relates.bind (relates_accept_ofLabel .stopping answer)
  rintro output - rfl
  apply Relates.bind (relates_checkOutput_ofLabel output races)
  rintro races - rfl
  apply Relates.bind (relates_ask_ofLabel hby (.bootOut service) hlabel (fun _ _ => rfl) houtput)
  rintro answer - rfl
  apply Relates.bind (relates_accept_ofLabel .stopping answer)
  rintro output - rfl
  apply Relates.bind (relates_checkOutput_ofLabel output races)
  rintro races - rfl
  exact relates_pure rfl

theorem relates_stopRounds_ofLabel (hby : manager.IsByLabel start) {policy : StopPolicy}
    (htimeout : policy.timeout = none) (service : Service) (hlabel : service.label = label)
    (started started' rounds : Nat) (report : StopReport) (lastCommand : String) :
    (ofLabel manager start label).Relates Eq
      (Act.stopRounds manager clock.quiet policy service started rounds report lastCommand)
      (Act.stopRounds manager clock.quiet policy service started' rounds report lastCommand) := by
  induction rounds generalizing report lastCommand with
  | zero => exact relates_halt _
  | succ rounds ih =>
      have hloaded : Function.Injective Reply.loaded := fun _ _ hsame => Reply.loaded.inj hsame
      have hlist : (ofLabel manager start label).Relates Eq
          (Act.list manager clock.quiet service) (Act.list manager clock.quiet service) := by
        apply Relates.bind
          (relates_ask_ofLabel hby (.query service) hlabel (fun _ _ => rfl) hloaded)
        rintro answer - rfl
        exact relates_accept_ofLabel .stopping answer
      apply Relates.bind hlist
      rintro loaded - rfl
      split
      · split
        · apply Relates.bind (relates_say_ofLabel _)
          rintro _ _ -
          exact relates_pure rfl
        · simp only [Act.checkTimeout, htimeout]
          have hnothing : (ofLabel manager start label).Relates Eq
              (pure () : Act σ τ Unit) (pure ()) := relates_pure rfl
          apply Relates.bind hnothing
          rintro _ _ -
          apply Relates.bind (relates_say_ofLabel _)
          rintro _ _ -
          apply Relates.bind (relates_request_ofLabel hby service hlabel _)
          rintro requested - rfl
          apply Relates.bind (relates_pause_ofLabel _)
          rintro _ _ -
          apply Relates.bind (relates_say_ofLabel _)
          rintro _ _ -
          exact ih _ _
      · exact relates_pure rfl

/-- After the same calls for its label, a service is stopped in the same way. -/
theorem relates_stop_ofLabel (hby : manager.IsByLabel start) (clock : Clock τ) {policy : StopPolicy}
    (htimeout : policy.timeout = none) (rounds : Nat) (service : Service) :
    (ofLabel manager start service.label).Relates Eq
      (Act.stop manager clock.quiet policy rounds service)
      (Act.stop manager clock.quiet policy rounds service) := by
  apply Relates.bind relates_now_ofLabel
  rintro started started' -
  exact relates_stopRounds_ofLabel hby htimeout service rfl started started' rounds {} ""

end Pairing

/-! ## One by one -/

section OneByOne

/-- The calls for a label, apart from their answers. -/
theorem callsFor_of_events {history : History} {events : List Event}
    (hhistory : history.map Prod.fst = events.filterMap Event.call?) (label : String) :
    history.callsFor label = (eventsFor label events).filterMap Event.call? := by
  unfold History.callsFor eventsFor
  rw [hhistory, List.filter_filterMap, List.filterMap_filter]
  apply List.filterMap_congr
  intro event _
  unfold Event.isFor
  cases event.call? with
  | none => simp
  | some call => by_cases hlabel : call.service.label = label <;> simp [hlabel]

/-- While a service is stopped no call is made for another label. -/
theorem Stopping.eventsFor_eq_nil {log : RunLog} {policy : StopPolicy} {service : Service}
    {events : List Event} {report : StopReport} {last : String} {ending : Ending StopReport}
    (hstop : Stopping log policy service report last events ending) {label : String}
    (hlabel : service.label ≠ label) : eventsFor label events = [] := by
  refine List.filter_eq_nil_iff.mpr fun event hevent hfor => ?_
  have hconcerns := (hstop.concerns event hevent).2
  cases event with
  | listed other | disabled other | bootedOut other =>
      obtain rfl := hconcerns other rfl
      exact hlabel (of_decide_eq_true hfor)
  | paused | tested | removed | said | trapped => simp [Event.isFor, Event.call?] at hfor

namespace Act

variable {manager : Manager σ} {policy : StopPolicy} {start scene : Scene σ τ} {history : History}
variable (clock : Clock τ) (rounds : Nat)

/-- Before any call was made for its label, a service is stopped as if it came first. -/
theorem stop_asAlone (hby : manager.IsByLabel start.manager) (htimeout : policy.timeout = none)
    (hscene : scene.manager = manager.after start.manager history) {service : Service}
    (hfresh : history.callsFor service.label = []) :
    let performed := stop manager clock.quiet policy rounds service scene
    let alone := stop manager clock.quiet policy rounds service start
    performed.ending = alone.ending ∧
      (∀ label, eventsFor label performed.events = eventsFor label alone.events) ∧
      ∃ more : History, performed.scene.manager = manager.after start.manager (history ++ more) ∧
        ∀ label, label ≠ service.label → more.callsFor label = [] := by
  intro performed alone
  obtain ⟨hending, hevents, -⟩ := Pairing.relates_stop_ofLabel hby clock htimeout rounds
    service scene start ⟨history, [], hscene, rfl, hfresh⟩
  obtain ⟨more, hmore, hlast⟩ :=
    obeys_stop (stopLaw_calls manager clock.quiet) policy rounds service scene
  have hshape := (shows_stop manager clock.quiet policy rounds service scene ⟨rfl, rfl⟩).1
  refine ⟨hending.eq, eventsFor_congr hevents, more, ?_, fun label hlabel => ?_⟩
  · rw [Manager.after_append, ← hscene]
    exact hlast
  · rw [callsFor_of_events hmore, hshape.eventsFor_eq_nil (Ne.symm hlabel)]
    rfl

/-- The services were stopped in turn, each one in the way in which it is stopped alone. -/
structure StoppedAsAlone (alone : Service → Performance σ τ StopReport) (services : List Service)
    (performed : Performance σ τ (List (String × StopReport))) : Prop where
  reports : ∀ reports, performed.ending = .done reports →
    List.Forall₂ (fun service report => report.1 = service.name ∧
      (alone service).ending = .done report.2) services reports
  events : ∀ reports, performed.ending = .done reports →
    ∀ label, eventsFor label performed.events =
      services.flatMap fun service => eventsFor label (alone service).events
  done : (∀ service ∈ services, ∃ report, (alone service).ending = .done report) →
    ∃ reports, performed.ending = .done reports

theorem stopAll_asAlone (hby : manager.IsByLabel start.manager) (htimeout : policy.timeout = none)
    {services : List Service} (hlabels : (services.map Service.label).Nodup)
    (hscene : scene.manager = manager.after start.manager history)
    (hfresh : ∀ service ∈ services, history.callsFor service.label = []) :
    StoppedAsAlone (fun service => stop manager clock.quiet policy rounds service start) services
      (stopAll manager clock.quiet policy rounds services scene) := by
  induction services generalizing scene history with
  | nil =>
      refine ⟨?_, fun _ _ _ => rfl, fun _ => ⟨[], rfl⟩⟩
      rintro reports ⟨⟩
      exact .nil
  | cons service rest ih =>
      obtain ⟨hnew, hrest⟩ := List.nodup_cons.mp hlabels
      obtain ⟨hending, hevents, more, hmore, hothers⟩ := stop_asAlone clock rounds hby htimeout
        hscene (hfresh service List.mem_cons_self)
      unfold stopAll
      rcases done_or_cuts _ (stop manager clock.quiet policy rounds service) scene with
        ⟨report, events, middle, hstop⟩ | ⟨ending, events, last, other, hstop, hcut⟩
      · rw [hstop] at hending hevents hmore
        have htail := ih hrest hmore fun other hother => by
          rw [History.callsFor_append, hfresh other (List.mem_cons_of_mem _ hother),
            hothers other.label (fun hsame => hnew (hsame ▸ List.mem_map_of_mem hother))]
          rfl
        rw [bind_of_done hstop]
        rw [perform_map]
        refine ⟨fun reports hdone => ?_, fun reports hdone label => ?_, fun hdone => ?_⟩
        · obtain ⟨others, hothers, rfl⟩ := Ending.map_eq_done.mp hdone
          exact .cons ⟨rfl, hending.symm⟩ (htail.reports others hothers)
        · obtain ⟨others, hothers, rfl⟩ := Ending.map_eq_done.mp hdone
          have hfirst := hevents label
          have hmore := htail.events others hothers label
          unfold eventsFor at hfirst hmore ⊢
          rw [Performance.precededBy, List.filter_append, List.flatMap_cons, ← hfirst, ← hmore]
        · obtain ⟨others, hothers⟩ := htail.done fun other hother =>
            hdone other (List.mem_cons_of_mem _ hother)
          exact ⟨_, Ending.map_eq_done.mpr ⟨others, hothers, rfl⟩⟩
      · rw [hstop] at hending
        rw [bind_of_cut hstop hcut]
        refine ⟨?_, ?_, fun hdone => ?_⟩
        · rintro reports rfl
          cases hcut
        · rintro reports rfl
          cases hcut
        · obtain ⟨report, hreport⟩ := hdone service List.mem_cons_self
          rw [← hending] at hreport
          cases hreport
          cases hcut

end Act

end OneByOne

/-! ## In any order -/

section AnyOrder

/-- Where at most one item has something to show, the order of the items does not matter. -/
theorem flatMap_eq_of_perm {ι κ β : Type} {items others : List ι} (hperm : items.Perm others)
    {key : ι → κ} (hkeys : (items.map key).Nodup) (shown : κ) (show? : ι → List β)
    (hother : ∀ item, key item ≠ shown → show? item = []) :
    items.flatMap show? = others.flatMap show? := by
  induction hperm with
  | nil => rfl
  | cons item hperm ih =>
      rw [List.flatMap_cons, List.flatMap_cons, ih (List.nodup_cons.mp hkeys).2]
  | swap first second rest =>
      have hne : key second ≠ key first := by
        simp only [List.map_cons, List.nodup_cons, List.mem_cons, not_or] at hkeys
        exact hkeys.1.1
      simp only [List.flatMap_cons]
      by_cases hfirst : key first = shown
      · rw [hother second (hfirst ▸ hne), List.nil_append, List.nil_append]
      · rw [hother first hfirst, List.nil_append, List.nil_append]
  | trans hfirst hsecond ih ih' =>
      exact (ih hkeys).trans (ih' ((hfirst.map key).nodup_iff.mp hkeys))

namespace Act

variable {manager : Manager σ} {clock : Clock τ} {policy : StopPolicy} {rounds : Nat}
variable {start : Scene σ τ} {services others : List Service}

/-- The report with which a service is stopped, if it is. -/
def reportOf (performed : Performance σ τ StopReport) : StopReport :=
  match performed.ending with
  | .done report => report
  | _ => {}

theorem StoppedAsAlone.reports_eq {alone : Service → Performance σ τ StopReport}
    {performed : Performance σ τ (List (String × StopReport))}
    (halone : StoppedAsAlone alone services performed) {reports : List (String × StopReport)}
    (hdone : performed.ending = .done reports) :
    reports = services.map fun service => (service.name, reportOf (alone service)) := by
  have hreports := halone.reports reports hdone
  clear hdone halone
  induction hreports with
  | nil => rfl
  | @cons service report services reports hreport hreports ih =>
      obtain ⟨hname, hending⟩ := hreport
      rw [List.map_cons, ← ih, ← hname]
      simp [reportOf, hending]

theorem StoppedAsAlone.exists_done {alone : Service → Performance σ τ StopReport}
    {performed : Performance σ τ (List (String × StopReport))}
    (halone : StoppedAsAlone alone services performed) {reports : List (String × StopReport)}
    (hdone : performed.ending = .done reports) :
    ∀ service ∈ services, ∃ report, (alone service).ending = .done report := by
  intro service hservice
  have hreports := halone.reports reports hdone
  obtain ⟨index, hindex, rfl⟩ := List.mem_iff_getElem.mp hservice
  have hlength : index < reports.length := hreports.length_eq ▸ hindex
  exact ⟨_, (hreports.get hindex hlength).2⟩

/-- Two performances of stopping services come to the same. -/
structure SameStops (services others : List Service) (reports reports' : List (String × StopReport))
    (performed reordered : Performance σ τ (List (String × StopReport))) : Prop where
  reports : ∃ report : Service → StopReport,
    reports = services.map (fun service => (service.name, report service)) ∧
      reports' = others.map fun service => (service.name, report service)
  calls : ∀ label, eventsFor label reordered.events = eventsFor label performed.events
  manager : reordered.scene.manager = performed.scene.manager

/-- Services with different labels are stopped independently of their order: with the same reports,
with the same calls for each of them, and with the same end for the manager. -/
theorem stopAll_perm (manager : Manager σ) (clock : Clock τ) (policy : StopPolicy) (rounds : Nat)
    (services others : List Service) (scene : Scene σ τ) (reports : List (String × StopReport))
    (hby : manager.IsByLabel scene.manager) (htimeout : policy.timeout = none)
    (hlabels : (services.map Service.label).Nodup) (hperm : services.Perm others)
    (hdone : (stopAll manager clock policy rounds services scene).ending = .done reports) :
    let performed := stopAll manager clock policy rounds services scene
    let reordered := stopAll manager clock policy rounds others scene
    (∃ signal, reordered.ending = .halted (.signal signal)) ∨
      ∃ reports', reordered.ending = .done reports' ∧
        SameStops services others reports reports' performed reordered := by
  intro performed reordered
  by_cases hsignal : ∃ signal, reordered.ending = .halted (.signal signal)
  · exact .inl hsignal
  right
  have hfirst : stopAll manager clock.quiet policy rounds services scene = performed :=
    extends_stopAll_quiet manager clock policy rounds services scene (by simp [hdone])
  have hsecond : stopAll manager clock.quiet policy rounds others scene = reordered := by
    apply extends_stopAll_quiet manager clock policy rounds others scene
    rintro reason hhalted ⟨signal, rfl⟩
    exact hsignal ⟨signal, hhalted⟩
  have hlabels' : (others.map Service.label).Nodup := (hperm.map _).nodup_iff.mp hlabels
  have hnone : scene.manager = manager.after scene.manager [] := rfl
  have halone := stopAll_asAlone clock rounds hby htimeout hlabels hnone fun _ _ => rfl
  have halone' := stopAll_asAlone clock rounds hby htimeout hlabels' hnone fun _ _ => rfl
  rw [hfirst] at halone
  rw [hsecond] at halone'
  obtain ⟨reports', hdone'⟩ := halone'.done fun service hservice =>
    halone.exists_done hdone service (hperm.mem_iff.mpr hservice)
  have hcalls (label : String) :
      eventsFor label reordered.events = eventsFor label performed.events := by
    rw [halone.events reports hdone, halone'.events reports' hdone']
    symm
    apply flatMap_eq_of_perm hperm hlabels label
    intro service hlabel
    exact (shows_stop manager clock.quiet policy rounds service scene
      ⟨rfl, rfl⟩).1.eventsFor_eq_nil hlabel
  refine ⟨reports', hdone', ?_, hcalls, ?_⟩
  · exact ⟨_, halone.reports_eq hdone, halone'.reports_eq hdone'⟩
  · obtain ⟨history, hhistory, hlast⟩ :=
      obeys_stopAll (stopLaw_calls manager clock) policy rounds services scene
    obtain ⟨history', hhistory', hlast'⟩ :=
      obeys_stopAll (stopLaw_calls manager clock) policy rounds others scene
    rw [hlast, hlast']
    apply hby.state
    intro label
    rw [callsFor_of_events hhistory, callsFor_of_events hhistory', hcalls]

open Rehearsal in
/-- The minion takes two rounds and the master none, in either order. -/
theorem stopAll_perm_two :
    let minion := Service.ofRole "minion"
    let master := Service.ofRole "master"
    let scene : Scene (String → Nat) Time :=
      { manager := fun label => if label = minion.label then 2 else 0
        clock := {}
        files := FileSystem.empty.makeDirectory (.ofString "/tmp")
        log := .opened Config.defaultLogPath "preinstall"
        progress := .fresh }
    let policy : StopPolicy := ⟨1000, none, false⟩
    let performed :=
      stopAll Manager.countdown.labelwise Time.clock policy 3 [minion, master] scene
    let reordered :=
      stopAll Manager.countdown.labelwise Time.clock policy 3 [master, minion] scene
    let reports : List (String × StopReport) :=
      [("salt-minion", ⟨true, 2, 0⟩), ("salt-master", ⟨false, 0, 0⟩)]
    performed.ending = .done reports ∧
      ((∃ signal, reordered.ending = .halted (.signal signal)) ∨
        ∃ reports', reordered.ending = .done reports' ∧
          SameStops [minion, master] [master, minion] reports reports' performed reordered) :=
  ⟨rfl, stopAll_perm _ _ _ _ _ _ _ _ (Manager.isBlind_countdown.isByLabel _) rfl (by decide)
    (.swap _ _ _) rfl⟩

end Act

end AnyOrder

end Decommission
