import Decommission.FileSystem.Arrange
import Decommission.Proofs.Run.Answers
import Decommission.Proofs.Run.Fatal
import Decommission.Rehearsal.Script
import Decommission.Rehearsal.Time

/-!
# Runs called again

A run can be called a second time, and any number of times after that.  Between two calls others may
change files, and time passes.  But the first call has brought the run to its end, and every later
one is refused before it does anything: only the refusal goes to the run log.
-/

namespace Decommission

/-- What happens between two calls of a run. -/
structure Interlude (τ : Type) where
  /-- What others do to the files. -/
  files : FileSystem → FileSystem
  /-- How time passes. -/
  clock : τ → τ

/-- An act that is given up does not come back to its caller. -/
def Ending.returns {α : Type} : Ending α → Bool
  | .done _ | .failed _ => true
  | .halted _ => false

variable {σ τ : Type}

def Scene.after (scene : Scene σ τ) (interlude : Interlude τ) : Scene σ τ :=
  { scene with files := interlude.files scene.files, clock := interlude.clock scene.clock }

/-- The message of a run that is refused because it has ended in this stage. -/
def refusalMessage (entryPoint : String) (stage : Stage) : String :=
  entryPoint ++ " caught error: 1 on line preinstall command was: " ++
    "Run state error: Cannot transition from terminal state " ++ stage.description

theorem RunLog.fatal_terminal (log : RunLog) (stage : Stage) :
    log.fatal .running (.transition (.terminal stage)) =
      refusalMessage log.entryPoint stage := by
  have hcode : toString (Fault.code (.transition (.terminal stage))) = "1" := rfl
  rw [fatal, hcode, refusalMessage]
  simp only [String.append_assoc]
  rfl

namespace Act

variable (manager : Manager σ) (clock : Clock τ) (rounds : Nat) (config : Config)

/-- The calls of a run after these interludes: the scene of each call, and what is done there. -/
def callsAgain : List (Interlude τ) → Scene σ τ → List (Scene σ τ × Performance σ τ RunReport)
  | [], _ => []
  | interlude :: rest, scene =>
      let next := scene.after interlude
      let performed := run manager clock rounds config next
      (next, performed) :: callsAgain rest performed.scene

/-- A call that is refused because the run came to its end in the scene `ended`. -/
structure IsRefused (ended : Scene σ τ) (scene : Scene σ τ)
    (performed : Performance σ τ RunReport) : Prop where
  ending : performed.ending = .failed (.transition (.terminal ended.progress.stage))
  /-- The one thing that happens is that the refusal is logged, if the log can be written. -/
  logged : ∃ stamp,
    performed.events = [.trapped stamp (refusalMessage ended.log.entryPoint ended.progress.stage)] ∧
      performed.scene.moment = scene.moment.written stamp
        (refusalMessage ended.log.entryPoint ended.progress.stage)
  manager : performed.scene.manager = ended.manager
  progress : performed.scene.progress = ended.progress

/-- The scene is as the other one but for the clock, the files and where its log goes. -/
structure Continues (ended scene : Scene σ τ) : Prop where
  manager : scene.manager = ended.manager
  progress : scene.progress = ended.progress
  entryPoint : scene.log.entryPoint = ended.log.entryPoint

variable {manager clock rounds config} {ended scene : Scene σ τ}

theorem isRefused_of_continues (hended : ended.progress.stage.isTerminal = true)
    (hscene : Continues ended scene) :
    IsRefused ended scene (run manager clock rounds config scene) := by
  have hrefused := Progress.transitionTo_of_isTerminal hended
  have hrun := run_shows manager clock rounds config scene
  obtain ⟨hsituation, -⟩ := consults_run manager clock rounds config scene
  dsimp only at hrun
  rw [hscene.progress] at hrun
  generalize run manager clock rounds config scene = performed at hrun hsituation ⊢
  obtain ⟨ending, events, last⟩ := performed
  generalize hlast : last.progress = progress at hrun
  cases hrun with
  | @refused refusal stamp hstart =>
      rw [hrefused] at hstart
      cases hstart
      rw [RunLog.fatal_terminal, hscene.entryPoint] at hsituation ⊢
      constructor
      · rfl
      · exact ⟨stamp, rfl, congrArg Situation.moment hsituation⟩
      · exact (congrArg Situation.state hsituation).trans hscene.manager
      · exact hlast.trans (Progress.abort_of_isTerminal hended)
  | notStopped hstart | notCleaned hstart | complete hstart =>
      rw [hstart] at hended
      cases hended

theorem IsRefused.continues {performed : Performance σ τ RunReport}
    (hrefused : IsRefused ended scene performed) (hscene : Continues ended scene) :
    Continues ended performed.scene := by
  obtain ⟨stamp, -, hmoment⟩ := hrefused.logged
  refine ⟨hrefused.manager, hrefused.progress, ?_⟩
  calc
    performed.scene.log.entryPoint = (scene.moment.written stamp _).log.entryPoint :=
      congrArg (fun moment => moment.log.entryPoint) hmoment
    _ = scene.log.entryPoint := RunLog.entryPoint_write _ _ _ _
    _ = ended.log.entryPoint := hscene.entryPoint

/-- Once a run has ended all calls are refused, whatever happens between them. -/
theorem isRefused_of_mem_callsAgain {interludes : List (Interlude τ)}
    (hended : ended.progress.stage.isTerminal = true) (hscene : Continues ended scene) :
    ∀ call ∈ callsAgain manager clock rounds config interludes scene,
      IsRefused ended call.1 call.2 := by
  induction interludes generalizing scene with
  | nil => simp [callsAgain]
  | cons interlude rest ih =>
      have hnext : Continues ended (scene.after interlude) :=
        ⟨hscene.manager, hscene.progress, hscene.entryPoint⟩
      have hrefused : IsRefused ended (scene.after interlude)
          (run manager clock rounds config (scene.after interlude)) :=
        isRefused_of_continues hended hnext
      rw [callsAgain, List.forall_mem_cons]
      exact ⟨hrefused, ih (hrefused.continues hnext)⟩

variable (manager clock rounds config) in
/-- A run that has come to an end has ended in one of two ways. -/
theorem progress_of_first_run (hfresh : scene.progress = .fresh) :
    let performed := run manager clock rounds config scene
    (∀ report, performed.ending = .done report → performed.scene.progress = ⟨.done, none⟩) ∧
      ∀ fault, performed.ending = .failed fault →
        ∃ stage, performed.scene.progress = ⟨.aborted, some stage⟩ := by
  have hrun := run_shows manager clock rounds config scene
  have hstart : scene.progress.stage = .start := by rw [hfresh, Progress.fresh]
  dsimp only at hrun ⊢
  generalize run manager clock rounds config scene = performed at hrun ⊢
  obtain ⟨ending, events, last⟩ := performed
  generalize hlast : last.progress = progress at hrun ⊢
  constructor
  · rintro report ⟨⟩
    cases hrun with
    | complete => rw [hfresh, Progress.fresh]
    | notStopped _ _ hcut | notCleaned _ _ _ hcut => cases hcut
  · intro fault hfailed
    obtain ⟨stage, -, haborted⟩ := hrun.records hstart
    exact ⟨stage, haborted fault hfailed⟩

/-- A run is good for one call.  If the first call returns, the run is done or aborted, and every
later call is refused: it asks nothing of the manager, touches no target, and leaves one fatal line. -/
theorem run_singleUse (manager : Manager σ) (clock : Clock τ) (rounds : Nat) (config : Config)
    (scene : Scene σ τ) (interludes : List (Interlude τ)) (hfresh : scene.progress = .fresh)
    (hreturned : (run manager clock rounds config scene).ending.returns = true) :
    let first := run manager clock rounds config scene
    (∀ report, first.ending = .done report → first.scene.progress = ⟨.done, none⟩) ∧
      (∀ fault, first.ending = .failed fault →
        ∃ stage, first.scene.progress = ⟨.aborted, some stage⟩) ∧
      ∀ call ∈ callsAgain manager clock rounds config interludes first.scene,
        IsRefused first.scene call.1 call.2 := by
  obtain ⟨hdone, hfailed⟩ := progress_of_first_run manager clock rounds config hfresh
  dsimp only at hdone hfailed ⊢
  refine ⟨hdone, hfailed, ?_⟩
  apply isRefused_of_mem_callsAgain ?ended ⟨rfl, rfl, rfl⟩
  case ended =>
    cases hending : (run manager clock rounds config scene).ending with
    | done report => rw [hdone report hending, Stage.isTerminal]
    | failed fault =>
        obtain ⟨stage, hlast⟩ := hfailed fault hending
        rw [hlast, Stage.isTerminal]
    | halted reason =>
        rw [hending] at hreturned
        cases hreturned

open Rehearsal in
theorem run_singleUse_failed :
    let scene : Scene Scripted Time :=
      { manager.script :=
          { loaded := [("com.saltstack.salt.minion", 2)]
            bootOut := [("com.saltstack.salt.minion", [.ok (some 36), .ok (some 5)])] }
        clock := {}
        files := FileSystem.empty.makeDirectory (.ofString "/opt/salt/bin")
        log := .opened (.ofString "/opt/salt/run.txt") "preinstall"
        progress := .fresh }
    let first := run Scripted.manager Time.clock 3 .standard scene
    let interludes : List (Interlude Time) :=
      [⟨id, id⟩, ⟨fun files => files.discard (.ofString "/opt/salt"), id⟩]
    scene.progress = .fresh ∧ first.ending.returns = true ∧
      (∃ command, first.ending = .failed (.service 5 command .stopping)) ∧
      (∀ report, first.ending = .done report → first.scene.progress = ⟨.done, none⟩) ∧
      (∀ fault, first.ending = .failed fault →
        ∃ stage, first.scene.progress = ⟨.aborted, some stage⟩) ∧
      ∀ call ∈ callsAgain Scripted.manager Time.clock 3 .standard interludes first.scene,
        IsRefused first.scene call.1 call.2 :=
  ⟨rfl, rfl, ⟨_, rfl⟩, run_singleUse _ _ _ _ _ _ rfl rfl⟩

end Act

end Decommission
