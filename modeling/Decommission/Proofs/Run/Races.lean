import Decommission.FileSystem.Arrange
import Decommission.Proofs.Run.Events
import Decommission.Proofs.Run.Parallel
import Decommission.Proofs.Run.Transcript
import Decommission.Rehearsal.Script
import Decommission.Rehearsal.Time

/-!
# Benign races

A race is a request that another actor is already carrying out.  A run counts the races among the
answers of its manager, and that is all that depends on them: had some of these requests been carried
out instead, the run would be the same run with a lower count.  The count of a run is the true number
as long as that fits into it.
-/

namespace Decommission

/-! ## The count of races -/

/-- The output of a request that was answered. -/
def Event.output? : Event → Option ControlOutput
  | .disabled _ (.ok output) | .bootedOut _ (.ok output) => some output
  | _ => none

/-- The number of answers that tell of a race. -/
def racesIn (events : List Event) : Nat :=
  countRaces (events.filterMap Event.output?)

theorem racesIn_append (events more : List Event) :
    racesIn (events ++ more) = racesIn events + racesIn more := by
  rw [racesIn, List.filterMap_append, countRaces_append, racesIn, racesIn]

theorem racesIn_cons (event : Event) (events : List Event) :
    racesIn (event :: events) = racesIn [event] + racesIn events :=
  racesIn_append [event] events

section Shapes

variable {log : RunLog} {policy : StopPolicy} {service : Service} {events : List Event}

theorem Requesting.races_eq {races : Count} {requested : Count × String}
    (hrequest : Requesting log service races events (.done requested)) :
    requested.1 = races + .ofNat (racesIn events) := by
  obtain ⟨round, hrequested, rfl⟩ := hrequest.exists_round
  exact congrArg Prod.fst hrequested

theorem Stopping.benignRaces_eq {report final : StopReport} {last : String}
    (hstop : Stopping log policy service report last events (.done final)) :
    final.benignRaces = report.benignRaces + .ofNat (racesIn events) := by
  generalize hending : Ending.done final = ending at hstop
  induction hstop with
  | absent | rehearsed =>
      cases hending
      exact (UInt32.add_zero _).symm
  | @round report last races command events more ending stamp stamp' _ hrequest hrest ih =>
      have hround : races = report.benignRaces + .ofNat (racesIn events) := hrequest.races_eq
      have hevents : racesIn (.listed service (.ok true) ::
          .said stamp ("Stopping " ++ service.name ++ "...") :: events ++
            .paused policy.pollInterval :: .said stamp' "Stopped Successfully" :: more) =
              racesIn events + racesIn more :=
        racesIn_append (_ :: _ :: events) (_ :: _ :: more)
      calc
        final.benignRaces = races + .ofNat (racesIn more) := ih hending
        _ = report.benignRaces + .ofNat (racesIn events) + .ofNat (racesIn more) := by rw [hround]
        _ = report.benignRaces + .ofNat (racesIn events + racesIn more) := by
          rw [UInt32.add_assoc, ← UInt32.ofNat_add]
        _ = _ := by rw [hevents]
  | unknown | late | denied | interrupted | exhausted => cases hending

theorem StoppingAll.benignRaces_eq {services : List Service}
    {reports : List (String × StopReport)}
    (hstops : StoppingAll log policy services events (.done reports)) :
    reports.foldr (fun stop count => stop.2.benignRaces + count) 0 = .ofNat (racesIn events) := by
  unfold StoppingAll at hstops
  generalize hending : Ending.done reports = ending at hstops
  induction hstops generalizing reports with
  | nil =>
      cases hending
      rfl
  | @done service rest report values events more hstop hrest ih =>
      cases hending
      have hfirst : report.benignRaces = 0 + .ofNat (racesIn events) := hstop.benignRaces_eq
      rw [List.foldr_cons, ih rfl, racesIn_append, hfirst, UInt32.zero_add, UInt32.ofNat_add]
  | cut _ hcut | later _ _ hcut =>
      subst hending
      cases hcut

theorem CleaningAll.racesIn_eq_zero {dryRun : Bool} {targets : List Target}
    {ending : Ending (List CleanupOutcome)}
    (hcleans : CleaningAll log dryRun targets events ending) : racesIn events = 0 := by
  have hnone : events.filterMap Event.output? = [] := by
    rw [List.filterMap_eq_nil_iff]
    intro event hevent
    have hservice := hcleans.service?_eq_none event hevent
    cases event with
    | disabled | bootedOut | listed => cases hservice
    | paused | tested | removed | said | trapped => rfl
  rw [racesIn, hnone]
  rfl

/-- The report of a run counts the answers that told of a race. -/
theorem Running.benignRaces_eq {config : Config} {start last : Progress} {report : RunReport}
    (hrun : Running log config start events (.done report) last) :
    report.benignRaces = .ofNat (racesIn events) := by
  cases hrun with
  | notStopped _ _ hcut => cases hcut
  | notCleaned _ _ _ hcut => cases hcut
  | @complete stopped reports cleaned outcomes stamp stamp' _ hstops hcleans =>
      have hcleaned : racesIn cleaned = 0 := hcleans.racesIn_eq_zero
      calc
        (RunReport.of reports (config.targets.zip outcomes)).benignRaces =
            .ofNat (racesIn stopped) := hstops.benignRaces_eq
        _ = .ofNat (racesIn (stopped ++ cleaned ++
              [.said stamp' "Preinstall Completed Successfully"])) := by
          rw [racesIn_append, racesIn_append, hcleaned]
          rfl

/-- A report that is known apart from races is known. -/
theorem Running.report_eq {config : Config} {start last : Progress} {report report' : RunReport}
    (hrun : Running log config start events (.done report) last)
    (hreports : report.apartFromRaces = report'.apartFromRaces) :
    report = { report' with benignRaces := .ofNat (racesIn events) } :=
  calc
    report = { report.apartFromRaces with benignRaces := report.benignRaces } := rfl
    _ = { report'.apartFromRaces with benignRaces := .ofNat (racesIn events) } := by
      rw [hreports, hrun.benignRaces_eq]
    _ = { report' with benignRaces := .ofNat (racesIn events) } := rfl

end Shapes

/-! ## Races replaced -/

/-- The second event is the first one with so many races replaced by success. -/
inductive Event.Unraced : Event → Event → Nat → Prop where
  | same (event : Event) : Unraced event event 0
  | disabled {service output} (hrace : output.exitCode = some benignRaceCode) :
      Unraced (.disabled service (.ok output))
        (.disabled service (.ok { output with exitCode := some 0 })) 1
  | bootedOut {service output} (hrace : output.exitCode = some benignRaceCode) :
      Unraced (.bootedOut service (.ok output))
        (.bootedOut service (.ok { output with exitCode := some 0 })) 1

/-- The second events are the first ones, one by one, with so many races replaced by success. -/
inductive UnracedEvents : List Event → List Event → Nat → Prop where
  | nil : UnracedEvents [] [] 0
  | cons {event other events others replaced count} (hevent : event.Unraced other replaced)
      (hevents : UnracedEvents events others count) :
      UnracedEvents (event :: events) (other :: others) (replaced + count)

theorem Event.Unraced.racesIn_eq {event other : Event} {replaced : Nat}
    (hevent : event.Unraced other replaced) : racesIn [event] = racesIn [other] + replaced := by
  have hcount : ∀ output : ControlOutput, output.exitCode = some benignRaceCode →
      countRaces [output] = countRaces [{ output with exitCode := some 0 }] + 1 := by
    intro output hrace
    simp [countRaces, ControlOutput.code, hrace, benignRaceCode]
  cases hevent with
  | same => rfl
  | disabled hrace | bootedOut hrace => exact hcount _ hrace

theorem UnracedEvents.racesIn_eq {events others : List Event} {count : Nat}
    (hevents : UnracedEvents events others count) :
    racesIn events = racesIn others + count := by
  induction hevents with
  | nil => rfl
  | @cons event other events others replaced count hevent hevents ih =>
      rw [racesIn_cons event, racesIn_cons other, hevent.racesIn_eq, ih]
      omega

theorem exists_unracedEvents {events others : List Event}
    (hevents : List.Forall₂ (fun event other => ∃ replaced, event.Unraced other replaced)
      events others) : ∃ count, UnracedEvents events others count := by
  induction hevents with
  | nil => exact ⟨0, .nil⟩
  | cons hevent hevents ih =>
      obtain ⟨replaced, hevent⟩ := hevent
      obtain ⟨count, hcount⟩ := ih
      exact ⟨replaced + count, .cons hevent hcount⟩

variable {σ ρ τ : Type}

/-- In states that belong together the second manager answers as the first one does, or says success
where that one tells of a race, and then their states belong together again. -/
structure Manager.UnracedBy (first : Manager σ) (second : Manager ρ) (related : σ → ρ → Prop) :
    Prop where
  isLoaded : ∀ service files {state other}, related state other →
    (first.isLoaded service files state).1 = (second.isLoaded service files other).1 ∧
      related (first.isLoaded service files state).2 (second.isLoaded service files other).2
  disable : ∀ service files {state other}, related state other →
    Unraced (first.disable service files state).1 (second.disable service files other).1 ∧
      related (first.disable service files state).2 (second.disable service files other).2
  bootOut : ∀ service files {state other}, related state other →
    Unraced (first.bootOut service files state).1 (second.bootOut service files other).1 ∧
      related (first.bootOut service files state).2 (second.bootOut service files other).2

/-- The answer with success in the place of a race. -/
def unrace : Except Fault ControlOutput → Except Fault ControlOutput
  | .error fault => .error fault
  | .ok output =>
      if output.exitCode = some benignRaceCode then .ok { output with exitCode := some 0 }
      else .ok output

theorem unraced_unrace (answer : Except Fault ControlOutput) : Unraced answer (unrace answer) := by
  cases answer with
  | error fault => exact .same _
  | ok output =>
      rw [unrace]
      split
      · rename_i hrace
        exact .success hrace
      · exact .same _

/-- The manager with success in the place of some races.  They are chosen by the number of requests
that came before. -/
def Manager.unraced (manager : Manager σ) (chosen : Nat → Bool) : Manager (σ × Nat) where
  isLoaded service files state :=
    let (answer, next) := manager.isLoaded service files state.1
    (answer, next, state.2)
  disable service files state :=
    let (answer, next) := manager.disable service files state.1
    (if chosen state.2 then unrace answer else answer, next, state.2 + 1)
  bootOut service files state :=
    let (answer, next) := manager.bootOut service files state.1
    (if chosen state.2 then unrace answer else answer, next, state.2 + 1)

theorem Manager.unracedBy_unraced (manager : Manager σ) (chosen : Nat → Bool) :
    manager.UnracedBy (manager.unraced chosen) fun state other => other.1 = state := by
  have hchosen : ∀ number answer,
      Unraced answer (if chosen number then unrace answer else answer) := by
    intro number answer
    split
    · exact unraced_unrace answer
    · exact .same answer
  constructor
  case isLoaded =>
    rintro service files _ other rfl
    exact ⟨rfl, rfl⟩
  case disable | bootOut =>
    rintro service files _ other rfl
    exact ⟨hchosen _ _, rfl⟩

/-- The scene with another manager. -/
def Scene.withManager (scene : Scene σ τ) (manager : ρ) : Scene ρ τ :=
  ⟨manager, scene.clock, scene.files, scene.log, scene.progress⟩

namespace Pairing

/-- Scenes that are the same but for their managers, and events that are the same but for races. -/
def ofManagers (related : σ → ρ → Prop) : Pairing σ ρ τ where
  scenes scene second := ∃ state, related scene.manager state ∧ second = scene.withManager state
  events event other := ∃ replaced, event.Unraced other replaced

variable {related : σ → ρ → Prop}

/-- What leaves the manager alone is the same in both scenes. -/
theorem relates_ofManagers {α : Type} {act : Act σ τ α} {other : Act ρ τ α}
    (hact : ∀ scene state, (act scene).scene.manager = scene.manager ∧
      other (scene.withManager state) =
        ⟨(act scene).ending, (act scene).events, (act scene).scene.withManager state⟩) :
    (ofManagers related).Relates Eq act other := by
  rintro scene second ⟨state, hstate, rfl⟩
  obtain ⟨hmanager, hother⟩ := hact scene state
  rw [← hmanager] at hstate
  rw [hother]
  apply performs_of_eq
  · exact fun event => ⟨0, .same event⟩
  · rfl
  · rfl
  · exact ⟨state, hstate, rfl⟩

theorem relates_ask {α : Type} {question : FileSystem → σ → Except Fault α × σ}
    {question' : FileSystem → ρ → Except Fault α × ρ} {event : Except Fault α → Event}
    {answers : Except Fault α → Except Fault α → Prop}
    (hquestion : ∀ files state other, related state other →
      answers (question files state).1 (question' files other).1 ∧
        related (question files state).2 (question' files other).2)
    (hevent : ∀ answer other, answers answer other →
      ∃ replaced, (event answer).Unraced (event other) replaced) :
    (ofManagers (τ := τ) related).Relates answers (Act.ask question event)
      (Act.ask question' event) := by
  rintro scene second ⟨state, hstate, rfl⟩
  obtain ⟨hanswers, hnext⟩ := hquestion scene.files scene.manager state hstate
  refine ⟨.done hanswers, ?_, (question' scene.files state).2, hnext, rfl⟩
  exact .cons (hevent _ _ hanswers) .nil

theorem keeps_ofManagers {first : Manager σ} {second : Manager ρ}
    (hmanagers : first.UnracedBy second related) (clock : Clock τ) :
    (ofManagers related).Keeps first second clock where
  progress := by
    rintro scene second ⟨state, -, rfl⟩
    rfl
  moved := by
    rintro scene second progress ⟨state, hstate, rfl⟩
    exact ⟨state, hstate, rfl⟩
  said message := relates_ofManagers fun _ _ => ⟨rfl, rfl⟩
  trapped caller fault := relates_ofManagers fun _ _ => ⟨rfl, rfl⟩
  told := relates_ofManagers fun _ _ => ⟨rfl, rfl⟩
  paused duration := relates_ofManagers fun _ _ => ⟨rfl, rfl⟩
  tested target := relates_ofManagers fun _ _ => ⟨rfl, rfl⟩
  removed target := relates_ofManagers fun _ _ => ⟨rfl, rfl⟩
  listed service := by
    apply relates_ask
    · intro files state other hstate
      exact hmanagers.isLoaded service files hstate
    · rintro answer - rfl
      exact ⟨0, .same _⟩
  disabled service := by
    apply relates_ask
    · intro files state other hstate
      exact hmanagers.disable service files hstate
    · intro answer other hanswer
      cases hanswer with
      | same => exact ⟨0, .same _⟩
      | success hrace => exact ⟨1, .disabled hrace⟩
  bootedOut service := by
    apply relates_ask
    · intro files state other hstate
      exact hmanagers.bootOut service files hstate
    · intro answer other hanswer
      cases hanswer with
      | same => exact ⟨0, .same _⟩
      | success hrace => exact ⟨1, .bootedOut hrace⟩

end Pairing

/-! ## Runs with races replaced -/

/-- The reports are the same but for races.  The second one counts so many, and the first one so many
more. -/
structure RunReport.Unraced (races more : Nat) (report other : RunReport) : Prop where
  fewer : other.benignRaces = .ofNat races
  same : report = { other with benignRaces := .ofNat (races + more) }

namespace Act

/-- Races are invisible but for their count.  If a second manager says success in the place of some
races of the first one, then its run asks the same, says the same and leaves the same scene, and ends
with the same fault, or with a report that counts those races less. -/
theorem run_races_invisible {first : Manager σ} {second : Manager ρ} {related : σ → ρ → Prop}
    (hmanagers : first.UnracedBy second related) (clock : Clock τ) (rounds : Nat) (config : Config)
    (scene : Scene σ τ) (state : ρ) (hstate : related scene.manager state) :
    let performed := run first clock rounds config scene
    let other := run second clock rounds config (scene.withManager state)
    ∃ count, UnracedEvents performed.events other.events count ∧
      performed.ending.Alike (RunReport.Unraced (racesIn other.events) count) other.ending ∧
      ∃ left, related performed.scene.manager left ∧
        other.scene = performed.scene.withManager left := by
  have hrun := run_shows first clock rounds config scene
  have hother := run_shows second clock rounds config (scene.withManager state)
  obtain ⟨hending, hevents, left, hleft, hscene⟩ :=
    Pairing.relates_run (Pairing.keeps_ofManagers hmanagers clock) rounds config scene
      (scene.withManager state) ⟨state, hstate, rfl⟩
  obtain ⟨count, hcount⟩ := exists_unracedEvents hevents
  refine ⟨count, hcount, ?_, left, hleft, hscene⟩
  generalize run first clock rounds config scene = performed at *
  generalize run second clock rounds config (scene.withManager state) = other at *
  obtain ⟨ending, events, last⟩ := performed
  obtain ⟨ending', others, last'⟩ := other
  cases hending with
  | @done report report' hreports =>
      have hsame : report = { report' with benignRaces := .ofNat (racesIn others + count) } := by
        rw [← hcount.racesIn_eq]
        exact hrun.report_eq hreports
      exact .done ⟨hother.benignRaces_eq, hsame⟩
  | failed fault => exact .failed fault
  | halted reason => exact .halted reason

open Rehearsal in
theorem run_races_invisible_scripted :
    let scene : Scene Scripted Time :=
      { manager.script :=
          { loaded := [("com.saltstack.salt.minion", 2)]
            disable := [("com.saltstack.salt.minion", [.ok (some 36)])]
            bootOut := [("com.saltstack.salt.minion", [.ok (some 36), .ok (some 36)])] }
        clock := {}
        files := FileSystem.empty.makeDirectory (.ofString "/opt/salt/bin")
        log := .opened (.ofString "/var/run.txt") "preinstall"
        progress := .fresh }
    let second := Scripted.manager.unraced fun number => number = 0 || number = 3
    let performed := run Scripted.manager Time.clock 3 .standard scene
    let other := run second Time.clock 3 .standard (scene.withManager (scene.manager, 0))
    (racesIn performed.events = 3 ∧ racesIn other.events = 1) ∧
      ∃ count, UnracedEvents performed.events other.events count ∧
        performed.ending.Alike (RunReport.Unraced (racesIn other.events) count) other.ending ∧
        ∃ left : Scripted × Nat, left.1 = performed.scene.manager ∧
          other.scene = performed.scene.withManager left :=
  ⟨⟨rfl, rfl⟩,
    run_races_invisible (Scripted.manager.unracedBy_unraced _) Time.clock 3 .standard _ (_, 0) rfl⟩

end Act

end Decommission
