import Decommission.Proofs.Run.Cleaning
import Decommission.Proofs.Run.Stopping

/-!
# What a run shows

A run is cut into three parts: stopping services, cleaning up, and finishing.  What it shows is what
the parts show, up to the first part that has no result.
-/

namespace Decommission

section Shapes

variable (log : RunLog) (config : Config) (start : Progress)

/-- The events and the ending of a run, and how far it has come in the end. -/
inductive Running : List Event → Ending RunReport → Progress → Prop where
  /-- The run has begun before. -/
  | refused {refusal stamp} (hstart : start.transitionTo .stoppingServices = .error refusal) :
      Running [.trapped stamp (log.fatal .running (.transition refusal))]
        (.failed (.transition refusal)) start.abort
  | notStopped {events ending other stamp} (hstart : start.stage = .start)
      (hstops : StoppingAll log config.stopPolicy config.services events ending)
      (hcut : ending.Cuts other) :
      Running (.said stamp (Act.opening config) :: events) other
        (Act.settle other { start with stage := .stoppingServices })
  | notCleaned {events reports more ending other stamp} (hstart : start.stage = .start)
      (hstops : StoppingAll log config.stopPolicy config.services events (.done reports))
      (hcleans : CleaningAll log config.dryRun config.targets more ending)
      (hcut : ending.Cuts other) :
      Running (.said stamp (Act.opening config) :: events ++ more) other
        (Act.settle other { start with stage := .cleaningArtifacts })
  | complete {events reports more outcomes stamp stamp'} (hstart : start.stage = .start)
      (hstops : StoppingAll log config.stopPolicy config.services events (.done reports))
      (hcleans : CleaningAll log config.dryRun config.targets more (.done outcomes)) :
      Running (.said stamp (Act.opening config) :: events ++ more ++
          [.said stamp' "Preinstall Completed Successfully"])
        (.done (.of reports (config.targets.zip outcomes))) { start with stage := .done }

end Shapes

namespace Act

variable {σ τ : Type} {clock : Clock τ} {scene : Scene σ τ}

theorem enter_of_ok {stage : Stage} {next : Progress}
    (hnext : scene.progress.transitionTo stage = .ok next) :
    enter clock stage scene = ⟨.done (), [], { scene with progress := next }⟩ := by
  have hask : progress scene = ⟨.done scene.progress, [], scene⟩ := rfl
  rw [enter, bind_of_done hask, hnext]
  rfl

theorem enter_of_refused (clock : Clock τ) {stage : Stage} {refusal : Refusal}
    (hrefused : scene.progress.transitionTo stage = .error refusal) :
    ∃ stamp last, enter clock stage scene =
        ⟨.failed (.transition refusal),
          [.trapped stamp (scene.log.fatal .running (.transition refusal))], last⟩ ∧
      last.progress = scene.progress := by
  have hask : progress scene = ⟨.done scene.progress, [], scene⟩ := rfl
  rw [enter, bind_of_done hask, hrefused]
  exact ⟨_, _, rfl, rfl⟩

/-- The run begins, or is refused because it has begun before. -/
theorem stopping_cases (manager : Manager σ) (clock : Clock τ) (rounds : Nat) (config : Config)
    (scene : Scene σ τ) :
    let performed := stopping manager clock rounds config scene
    (∃ refusal stamp, scene.progress.transitionTo .stoppingServices = .error refusal ∧
      performed.events = [.trapped stamp (scene.log.fatal .running (.transition refusal))] ∧
      performed.ending = .failed (.transition refusal) ∧
      performed.scene.progress = scene.progress) ∨
    (∃ stamp more, scene.progress.stage = .start ∧
      performed.events = .said stamp (opening config) :: more ∧
      StoppingAll scene.log config.stopPolicy config.services more performed.ending ∧
      performed.scene.IsIn scene.log { scene.progress with stage := .stoppingServices }) := by
  dsimp only
  unfold stopping
  cases hstart : scene.progress.transitionTo .stoppingServices with
  | error refusal =>
      obtain ⟨stamp, last, henter, hlast⟩ := enter_of_refused clock hstart
      rw [bind_of_failed henter]
      exact Or.inl ⟨refusal, stamp, rfl, rfl, rfl, hlast⟩
  | ok begun =>
      obtain ⟨hstage, hbegun⟩ := Progress.transitionTo_eq_ok_iff.mp hstart
      have hfirst : scene.progress.stage = .start := by
        cases hnow : scene.progress.stage <;> simp_all [Stage.next?]
      rw [bind_of_done (enter_of_ok hstart)]
      have hshows : (say clock (opening config) >>= fun _ =>
          stopAll manager clock config.stopPolicy rounds config.services).Shows scene.log
            { scene.progress with stage := .stoppingServices }
            fun events ending => ∃ stamp more, events = .said stamp (opening config) :: more ∧
              StoppingAll scene.log config.stopPolicy config.services more ending := by
        apply shows_say_bind
        intro stamp
        apply (shows_stopAll manager clock config.stopPolicy rounds config.services).mono
        intro more ending hstops
        exact ⟨stamp, more, rfl, hstops⟩
      obtain ⟨⟨stamp, more, hevents, hstops⟩, hlast⟩ :=
        hshows { scene with progress := begun } ⟨rfl, hbegun⟩
      exact Or.inr ⟨stamp, more, hfirst, hevents, hstops, hlast⟩

theorem cleaning_shows (clock : Clock τ) (config : Config) {log : RunLog} {begun : Progress}
    (hscene : scene.IsIn log begun) (hstage : begun.stage = .stoppingServices) :
    let performed := cleaning clock config scene
    CleaningAll log config.dryRun config.targets performed.events performed.ending ∧
      performed.scene.IsIn log { begun with stage := .cleaningArtifacts } := by
  have hnext : scene.progress.transitionTo .cleaningArtifacts =
      .ok { begun with stage := .cleaningArtifacts } := by
    rw [hscene.progress, Progress.transitionTo_eq_ok_iff, hstage]
    exact ⟨rfl, rfl⟩
  dsimp only
  rw [cleaning, bind_of_done (enter_of_ok hnext)]
  exact shows_cleanupAll clock config.dryRun config.targets _ ⟨hscene.entryPoint, rfl⟩

theorem finishing_shows (clock : Clock τ) {log : RunLog} {begun : Progress}
    (hscene : scene.IsIn log begun) (hstage : begun.stage = .cleaningArtifacts) :
    ∃ stamp last, finishing clock scene =
        ⟨.done (), [.said stamp "Preinstall Completed Successfully"], last⟩ ∧
      last.progress = { begun with stage := .done } := by
  have hnext : scene.progress.transitionTo .done = .ok { begun with stage := .done } := by
    rw [hscene.progress, Progress.transitionTo_eq_ok_iff, hstage]
    exact ⟨rfl, rfl⟩
  rw [finishing, bind_of_done (enter_of_ok hnext)]
  exact ⟨_, _, rfl, rfl⟩

theorem run_shows (manager : Manager σ) (clock : Clock τ) (rounds : Nat) (config : Config)
    (scene : Scene σ τ) :
    let performed := run manager clock rounds config scene
    Running scene.log config scene.progress performed.events performed.ending
      performed.scene.progress := by
  dsimp only
  have hexecute := congrFun (execute_eq manager clock rounds config) scene
  have hcases := stopping_cases manager clock rounds config scene
  rcases done_or_cuts RunReport (stopping manager clock rounds config) scene with
    ⟨reports, events, middle, hstops⟩ | ⟨ending, events, last, other, hstops, hcut⟩
  · rw [hstops] at hcases
    rw [bind_of_done hstops] at hexecute
    rcases hcases with ⟨refusal, stamp, -, -, hending, -⟩ |
      ⟨stamp, more, hstart, rfl, hreports, hmiddle⟩
    · cases hending
    obtain ⟨hcleaning, hcleaned⟩ := cleaning_shows clock config hmiddle rfl
    rcases done_or_cuts RunReport (cleaning clock config) middle with
      ⟨outcomes, others, cleaned, hcleans⟩ | ⟨ending, others, last, other, hcleans, hcut⟩
    · rw [hcleans] at hcleaning hcleaned
      obtain ⟨stamp', last, hfinish, hlast⟩ := finishing_shows clock hcleaned rfl
      rw [bind_of_done hcleans, bind_of_done hfinish] at hexecute
      have hran : execute manager clock rounds config scene =
          ⟨.done (.of reports (config.targets.zip outcomes)),
            .said stamp (opening config) :: more ++
              (others ++ [.said stamp' "Preinstall Completed Successfully"]), last⟩ := by
        rw [hexecute]
        rfl
      rw [run_of_execute hran]
      dsimp only [settle]
      rw [hlast, ← List.append_assoc]
      exact .complete hstart hreports hcleaning
    · rw [hcleans] at hcleaning hcleaned
      rw [bind_of_cut hcleans hcut] at hexecute
      rw [run_of_execute hexecute]
      dsimp only
      rw [hcleaned.progress]
      exact .notCleaned hstart hreports hcleaning hcut
  · rw [hstops] at hcases
    rw [bind_of_cut hstops hcut] at hexecute
    rw [run_of_execute hexecute]
    dsimp only
    rcases hcases with ⟨refusal, stamp, hstart, rfl, rfl, hlast⟩ |
      ⟨stamp, more, hstart, rfl, hreports, hlast⟩
    · cases hcut
      rw [hlast]
      exact .refused hstart
    · rw [hlast.progress]
      exact .notStopped hstart hreports hcut

end Act

end Decommission
