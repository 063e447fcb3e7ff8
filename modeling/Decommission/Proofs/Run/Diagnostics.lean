import Decommission.FileSystem.Arrange
import Decommission.Proofs.FileSystem.Objects
import Decommission.Proofs.Run.Races
import Decommission.Proofs.Run.Target
import Decommission.Rehearsal.Script
import Decommission.Rehearsal.Time

/-!
# Diagnostics

The run log is written for those who read it later.  A run does not depend on where its lines go, or
whether they can be written at all: with another log it asks the same, removes the same and ends in
the same way.  This takes that each log either has its file open or cannot get one.
-/

namespace Decommission

/-! ## Targets and contents -/

section Targets

variable (target : Target)

namespace Target

variable (files : FileSystem) (objects : List FileObject)

theorem isPresent_withObjects :
    target.isPresent (files.withObjects objects) = target.isPresent files := by
  simp only [isPresent, FileSystem.find?_withObjects]

theorem remove_withObjects :
    target.remove (files.withObjects objects) =
      ((target.remove files).1, (target.remove files).2.withObjects objects) := by
  unfold remove attempt
  cases target.kind with
  | directoryTree => simp only [FileSystem.removeTree_withObjects]
  | symlink | registrationFile => simp only [FileSystem.unlink_withObjects]

end Target

namespace FileSystem.SameBut

variable {hidden : ObjectId → Prop} {first second : FileSystem}

theorem isPresent (hsame : first.SameBut hidden second) :
    target.isPresent second = target.isPresent first := by
  rw [hsame.eq_withObjects, Target.isPresent_withObjects]

theorem remove (hsame : first.SameBut hidden second) :
    (target.remove second).1 = (target.remove first).1 ∧
      (target.remove first).2.SameBut hidden (target.remove second).2 := by
  have hremove : target.remove second =
      ((target.remove first).1, (target.remove first).2.withObjects second.objects) := by
    rw [hsame.eq_withObjects, Target.remove_withObjects]
    rfl
  rw [hremove]
  exact ⟨rfl, hsame.of_objects (target.remove_loses first).objects rfl⟩

end FileSystem.SameBut

end Targets

/-! ## Logs that are settled -/

namespace RunLog

/-- Whether lines can be written has been settled: the file is open, or there is no directory in
which it could be opened. -/
def IsSettled (log : RunLog) (files : FileSystem) : Prop :=
  log.handle ≠ none ∨ ∃ error, files.parentOf log.path = .error error

/-- One of two logs has this file open. -/
def OpenIn (log other : RunLog) (object : ObjectId) : Prop :=
  log.handle = some object ∨ other.handle = some object

variable {log : RunLog} {files : FileSystem}

theorem IsSettled.of_isPart (hsettled : log.IsSettled files) {part : FileSystem}
    (hpart : part.IsPart files) : log.IsSettled part := by
  rcases hsettled with hopen | ⟨error, hparent⟩
  · exact Or.inl hopen
  · exact Or.inr (hpart.parentOf_eq_error hparent)

/-- A line changes nothing but the content of the file that is open. -/
theorem IsSettled.write (hsettled : log.IsSettled files) {hidden : ObjectId → Prop}
    (hhidden : ∀ object, log.handle = some object → hidden object) (stamp : Stamp)
    (message : String) :
    ∃ after, log.write stamp message files = (log, after) ∧ files.SameBut hidden after := by
  cases hattach : log.attach files with
  | error error => exact ⟨files, write_of_refused hattach stamp message, .refl hidden files⟩
  | ok attached =>
      obtain ⟨object, opened⟩ := attached
      rcases attach_eq_ok hattach with ⟨hhandle, rfl⟩ | ⟨hhandle, hopen⟩
      · refine ⟨_, ?_, .append opened (hhidden object hhandle) (bytesOf (line stamp message))⟩
        rw [write_of_attach hattach, ← hhandle]
      · rcases hsettled with hsome | ⟨error, hparent⟩
        · exact absurd hhandle hsome
        · obtain ⟨cause, hrefused⟩ := FileSystem.openAppend_of_parentOf hparent
          rw [hrefused] at hopen
          cases hopen

end RunLog

/-! ## Scenes with different logs -/

variable {σ τ : Type}

/-- The manager does not look into these files. -/
structure Manager.Overlooks (manager : Manager σ) (hidden : ObjectId → Prop) : Prop where
  isLoaded : ∀ {first second : FileSystem}, first.SameBut hidden second →
    ∀ service state, manager.isLoaded service second state = manager.isLoaded service first state
  disable : ∀ {first second : FileSystem}, first.SameBut hidden second →
    ∀ service state, manager.disable service second state = manager.disable service first state
  bootOut : ∀ {first second : FileSystem}, first.SameBut hidden second →
    ∀ service state, manager.bootOut service second state = manager.bootOut service first state

/-- Two scenes that are the same but for their logs, both settled, and the content of the files that
these have open. -/
structure Scene.SameButLogs (log other : RunLog) (scene second : Scene σ τ) : Prop where
  manager : second.manager = scene.manager
  clock : second.clock = scene.clock
  files : scene.files.SameBut (log.OpenIn other) second.files
  progress : second.progress = scene.progress
  log_eq : scene.log = log
  other_eq : second.log = other
  log_settled : log.IsSettled scene.files
  other_settled : other.IsSettled second.files

/-- The second event is the first one, or both are the fatal line of a fault. -/
inductive Event.Retold (log other : RunLog) : Event → Event → Prop where
  | same (event : Event) : Retold log other event event
  | fatal (stamp : Stamp) (caller : Origin) (fault : Fault) :
      Retold log other (.trapped stamp (log.fatal caller fault))
        (.trapped stamp (other.fatal caller fault))

/-- Two performances that are the same but for the logs. -/
structure Performance.SameButLogs {α : Type} (log other : RunLog)
    (performed retold : Performance σ τ α) : Prop where
  ending : retold.ending = performed.ending
  events : List.Forall₂ (Event.Retold log other) performed.events retold.events
  scene : performed.scene.SameButLogs log other retold.scene

variable {log other : RunLog}

theorem Event.Retold.racesIn_eq {event retold : Event} (hevent : event.Retold log other retold) :
    racesIn [retold] = racesIn [event] := by
  cases hevent <;> rfl

theorem racesIn_eq_of_retold {events others : List Event}
    (hevents : List.Forall₂ (Event.Retold log other) events others) :
    racesIn others = racesIn events := by
  induction hevents with
  | nil => rfl
  | @cons event retold events others hevent hevents ih =>
      rw [racesIn_cons retold, racesIn_cons event, hevent.racesIn_eq, ih]

namespace Pairing

/-- Scenes and events that are the same but for the logs. -/
def ofLogs (log other : RunLog) : Pairing σ σ τ where
  scenes := Scene.SameButLogs log other
  events := Event.Retold log other

variable {α : Type}

theorem relates_ask_ofLogs {question : FileSystem → σ → Except Fault α × σ}
    (hquestion : ∀ {first second : FileSystem}, first.SameBut (log.OpenIn other) second →
      ∀ state, question second state = question first state) (event : Except Fault α → Event) :
    (ofLogs (τ := τ) log other).Relates Eq (Act.ask question event) (Act.ask question event) := by
  intro scene second hscenes
  have hanswer : question second.files second.manager = question scene.files scene.manager := by
    rw [hscenes.manager]
    exact hquestion hscenes.files scene.manager
  apply performs_of_eq Event.Retold.same
  · exact congrArg (fun answered => Ending.done answered.1) hanswer
  · exact congrArg (fun answered => [event answered.1]) hanswer
  · exact { hscenes with manager := congrArg Prod.snd hanswer }

/-- A line of a settled log leaves everything but files and clock as it was. -/
theorem write_of_isSettled {scene : Scene σ τ} (hlog : scene.log = log)
    (hsettled : log.IsSettled scene.files) {hidden : ObjectId → Prop}
    (hhidden : ∀ object, log.handle = some object → hidden object) (clock : Clock τ)
    (message : String) (event : Stamp → String → Event) :
    ∃ after, scene.files.SameBut hidden after ∧ Act.write clock message event scene =
      ⟨.done (), [event (clock.stamp scene.clock).1 message],
        { scene with clock := (clock.stamp scene.clock).2, files := after }⟩ := by
  obtain ⟨after, hwrite, hafter⟩ :=
    hsettled.write hhidden (clock.stamp scene.clock).1 message
  rw [← hlog] at hwrite
  exact ⟨after, hafter, by simp only [Act.write, hwrite]⟩

/-- A line, in whatever words, makes no other difference. -/
theorem relates_write (clock : Clock τ) {message retelling : String}
    {event : Stamp → String → Event}
    (hevent : ∀ stamp, (event stamp message).Retold log other (event stamp retelling)) :
    (ofLogs (σ := σ) log other).Relates Eq (Act.write clock message event)
      (Act.write clock retelling event) := by
  intro scene second hscenes
  have hlog : ∀ object, log.handle = some object → log.OpenIn other object := fun _ => Or.inl
  have hother : ∀ object, other.handle = some object → log.OpenIn other object := fun _ => Or.inr
  obtain ⟨after, hafter, hfirst⟩ :=
    write_of_isSettled hscenes.log_eq hscenes.log_settled hlog clock message event
  obtain ⟨after', hafter', hsecond⟩ :=
    write_of_isSettled hscenes.other_eq hscenes.other_settled hother clock retelling event
  rw [hfirst, hsecond, hscenes.clock]
  refine ⟨.done rfl, .cons (hevent _) .nil, ?_⟩
  exact
    { hscenes with
      clock := rfl
      files := (hafter.symm.trans hscenes.files).trans hafter'
      log_settled := hscenes.log_settled.of_isPart hafter.isPart
      other_settled := hscenes.other_settled.of_isPart hafter'.isPart }

theorem relates_trap_ofLogs (clock : Clock τ) (caller : Origin) (fault : Fault) :
    (ofLogs (σ := σ) log other).Relates Eq (Act.trap clock caller fault : Act σ τ α)
      (Act.trap clock caller fault) := by
  intro scene second hscenes
  have hfail : (ofLogs (σ := σ) (τ := τ) log other).Relates Eq (Act.fail fault : Act σ τ α)
      (Act.fail fault) :=
    fun _ _ hscenes => ⟨.failed fault, .nil, hscenes⟩
  have hwrite : (ofLogs (σ := σ) log other).Relates Eq
      (Act.write clock (log.fatal caller fault) .trapped)
      (Act.write clock (other.fatal caller fault) .trapped) :=
    relates_write clock fun stamp => .fatal stamp caller fault
  have htrap := (hwrite.bind fun _ _ _ => hfail) scene second hscenes
  rw [← hscenes.log_eq, ← hscenes.other_eq] at htrap ⊢
  exact htrap

theorem keeps_ofLogs {manager : Manager σ} (hmanager : manager.Overlooks (log.OpenIn other))
    (clock : Clock τ) : (ofLogs log other).Keeps manager manager clock where
  progress hscenes := hscenes.progress
  moved progress hscenes := { hscenes with progress := rfl }
  said message := relates_write clock fun stamp => .same _
  trapped caller fault := relates_trap_ofLogs clock caller fault
  told := by
    intro scene second hscenes
    apply performs_of_eq Event.Retold.same
    · exact congrArg (fun time => Ending.done (clock.now time).1) hscenes.clock
    · rfl
    · exact { hscenes with clock := congrArg (fun time => (clock.now time).2) hscenes.clock }
  paused duration := by
    intro scene second hscenes
    have hpause : clock.pause duration second.clock = clock.pause duration scene.clock := by
      rw [hscenes.clock]
    apply performs_of_eq Event.Retold.same
    · simp only [Act.pause, hpause]
    · rfl
    · exact { hscenes with clock := congrArg Prod.snd hpause }
  listed service := relates_ask_ofLogs (hmanager.isLoaded · service) _
  disabled service :=
    (relates_ask_ofLogs (hmanager.disable · service) _).mono fun _ _ => Unraced.of_eq
  bootedOut service :=
    (relates_ask_ofLogs (hmanager.bootOut · service) _).mono fun _ _ => Unraced.of_eq
  tested target := by
    intro scene second hscenes
    have hpresent := hscenes.files.isPresent target
    apply performs_of_eq Event.Retold.same
    · exact congrArg Ending.done hpresent
    · exact congrArg (fun present => [Event.tested target present]) hpresent
    · exact hscenes
  removed target := by
    intro scene second hscenes
    obtain ⟨hanswer, hfiles⟩ := hscenes.files.remove target
    apply performs_of_eq Event.Retold.same
    · exact congrArg Ending.done hanswer
    · exact congrArg (fun answer => [Event.removed target answer]) hanswer
    · exact
        { hscenes with
          files := hfiles
          log_settled := hscenes.log_settled.of_isPart (target.remove_loses scene.files).isPart
          other_settled :=
            hscenes.other_settled.of_isPart (target.remove_loses second.files).isPart }

end Pairing

/-! ## Runs with different logs -/

namespace Act

/-- A run does not depend on its log.  With another one it asks and removes the same, takes the same
course to the same end, and leaves the same scene but for what its lines have added to the files that
the logs have open. -/
theorem run_ignores_log {manager : Manager σ} {scene : Scene σ τ} {other : RunLog}
    (hmanager : manager.Overlooks (scene.log.OpenIn other)) (clock : Clock τ) (rounds : Nat)
    (config : Config) (hlog : scene.log.IsSettled scene.files)
    (hother : other.IsSettled scene.files) :
    (run manager clock rounds config scene).SameButLogs scene.log other
      (run manager clock rounds config { scene with log := other }) := by
  have hrun := run_shows manager clock rounds config scene
  have hretold := run_shows manager clock rounds config { scene with log := other }
  have hscenes : scene.SameButLogs scene.log other { scene with log := other } :=
    ⟨rfl, rfl, .refl _ _, rfl, rfl, rfl, hlog, hother⟩
  obtain ⟨hending, hevents, hscene⟩ :=
    Pairing.relates_run (Pairing.keeps_ofLogs hmanager clock) rounds config _ _ hscenes
  refine ⟨?_, hevents, hscene⟩
  generalize run manager clock rounds config scene = performed at *
  generalize run manager clock rounds config { scene with log := other } = retold at *
  obtain ⟨ending, events, last⟩ := performed
  obtain ⟨ending', others, last'⟩ := retold
  cases hending with
  | @done report report' hreports =>
      have hraces : .ofNat (racesIn others) = report.benignRaces := by
        rw [racesIn_eq_of_retold hevents, hrun.benignRaces_eq]
      have hreport : report' = report := by
        rw [hretold.report_eq hreports.symm, hraces]
      exact congrArg Ending.done hreport
  | failed fault | halted reason => rfl

end Act

namespace Rehearsal

/-- A scripted manager looks for a path and never into a file. -/
theorem Scripted.manager_overlooks (hidden : ObjectId → Prop) :
    Scripted.manager.Overlooks hidden := by
  have hrecord : ∀ {first second : FileSystem}, first.SameBut hidden second →
      ∀ (scripted : Scripted) request service,
        scripted.record request service second = scripted.record request service first := by
    intro first second hsame scripted request service
    unfold record
    rw [hsame.eq_withObjects]
    simp only [FileSystem.find?_withObjects]
  constructor
  case isLoaded =>
    intro first second hsame service state
    show answerList service second state = answerList service first state
    unfold answerList
    rw [hrecord hsame]
  case disable =>
    intro first second hsame service state
    show answerDisable service second state = answerDisable service first state
    unfold answerDisable
    rw [hrecord hsame]
  case bootOut =>
    intro first second hsame service state
    show answerBootOut service second state = answerBootOut service first state
    unfold answerBootOut
    rw [hrecord hsame]

end Rehearsal

open Rehearsal in
theorem Act.run_ignores_log_lost :
    let files := FileSystem.empty.write (.ofString "/opt/salt/run.txt") []
    let scene : Scene Scripted Time :=
      { manager.script :=
          { loaded := [("com.saltstack.salt.minion", 1)]
            bootOut := [("com.saltstack.salt.minion", [.ok (some 36), .ok (some 5)])] }
        clock := {}
        files
        log := ⟨.ofString "/opt/salt/run.txt", "preinstall", some 0⟩
        progress := .fresh }
    let other : RunLog := .opened (.ofString "/var/log/run.txt") "installer"
    scene.log.IsSettled files ∧ other.IsSettled files ∧
      (run Scripted.manager Time.clock 3 .standard scene).SameButLogs scene.log other
        (run Scripted.manager Time.clock 3 .standard { scene with log := other }) :=
  ⟨Or.inl nofun, Or.inr ⟨_, rfl⟩,
    run_ignores_log (Scripted.manager_overlooks _) Time.clock 3 .standard (Or.inl nofun)
      (Or.inr ⟨_, rfl⟩)⟩

end Decommission
