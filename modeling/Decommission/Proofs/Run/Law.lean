import Decommission.Proofs.Run.Bind

/-!
# Laws of acts

A law relates the scene in which an act begins, the events it shows, and the scene it leaves.  A law
that holds from part to part and is kept by everything that runs are made of is kept by every run.
-/

namespace Decommission.Act

variable {σ τ α β : Type}

/-- Every performance of the act is in the relation. -/
def Obeys (act : Act σ τ α) (law : Scene σ τ → List Event → Scene σ τ → Prop) : Prop :=
  ∀ scene, law scene (act scene).events (act scene).scene

/-- The relation holds where nothing happens, and over two parts if it holds over each. -/
structure Composes (law : Scene σ τ → List Event → Scene σ τ → Prop) : Prop where
  nothing : ∀ scene, law scene [] scene
  append : ∀ {first middle last events more}, law first events middle → law middle more last →
    law first (events ++ more) last

/-- The relation is kept by what goes to the run log and by changes of stage. -/
structure LogLaw (clock : Clock τ) (law : Scene σ τ → List Event → Scene σ τ → Prop) : Prop
    extends Composes law where
  moved : ∀ {first events last} progress, law first events last →
    law first events { last with progress }
  said : ∀ message, (say clock message).Obeys law
  trapped : ∀ message, (write clock message .trapped).Obeys law

/-- The relation is kept by all that stopping services is made of. -/
structure StopLaw (manager : Manager σ) (clock : Clock τ)
    (law : Scene σ τ → List Event → Scene σ τ → Prop) : Prop extends LogLaw clock law where
  told : (now clock).Obeys law
  paused : ∀ duration, (pause clock duration).Obeys law
  listed : ∀ service, (ask (manager.isLoaded service) (.listed service)).Obeys law
  disabled : ∀ service, (ask (manager.disable service) (.disabled service)).Obeys law
  bootedOut : ∀ service, (ask (manager.bootOut service) (.bootedOut service)).Obeys law

/-- The relation is kept by all that cleaning up is made of. -/
structure CleanLaw (clock : Clock τ) (law : Scene σ τ → List Event → Scene σ τ → Prop) : Prop
    extends LogLaw clock law where
  tested : ∀ target, (look target.isPresent (.tested target)).Obeys law
  removed : ∀ target, (change target.remove (.removed target)).Obeys law

section Obeys

variable {law : Scene σ τ → List Event → Scene σ τ → Prop}

theorem Obeys.bind {act : Act σ τ α} {next : α → Act σ τ β} (hlaw : Composes law)
    (hact : act.Obeys law) (hnext : ∀ value, (next value).Obeys law) :
    (act >>= next).Obeys law := by
  intro scene
  have hfirst := hact scene
  cases hperformed : act scene with
  | mk ending events middle =>
      rw [hperformed] at hfirst
      cases ending with
      | done value =>
          rw [bind_of_done hperformed]
          exact hlaw.append hfirst (hnext value middle)
      | failed fault =>
          rw [bind_of_failed hperformed]
          exact hfirst
      | halted reason =>
          rw [bind_of_halted hperformed]
          exact hfirst

theorem obeys_done (hlaw : Composes law) (value : α) : (done value).Obeys law :=
  hlaw.nothing

theorem obeys_pure (hlaw : Composes law) (value : α) : (pure value : Act σ τ α).Obeys law :=
  hlaw.nothing

theorem obeys_halt (hlaw : Composes law) (reason : Halt) :
    (halt reason : Act σ τ α).Obeys law :=
  hlaw.nothing

variable {manager : Manager σ} {clock : Clock τ}

theorem obeys_trap (hlaw : LogLaw clock law) (caller : Origin) (fault : Fault) :
    (trap clock caller fault : Act σ τ α).Obeys law := by
  intro scene
  have hfail : (fail fault : Act σ τ α).Obeys law := hlaw.nothing
  have hwrite := hlaw.trapped (scene.log.fatal caller fault)
  exact Obeys.bind hlaw.toComposes hwrite (fun _ => hfail) scene

theorem obeys_accept (hlaw : LogLaw clock law) (caller : Origin) (answer : Except Fault α) :
    (accept clock caller answer).Obeys law := by
  cases answer with
  | ok value => exact obeys_done hlaw.toComposes value
  | error fault => exact obeys_trap hlaw caller fault

theorem obeys_checkOutput (hlaw : LogLaw clock law) (output : ControlOutput) (races : Count) :
    (checkOutput clock output races).Obeys law := by
  apply Obeys.bind hlaw.toComposes
  · unfold checkCode
    split
    · exact obeys_done hlaw.toComposes ()
    · exact obeys_done hlaw.toComposes ()
    · exact obeys_trap hlaw _ _
  · intro _
    exact obeys_pure hlaw.toComposes _

theorem obeys_request (hlaw : StopLaw manager clock law) (service : Service) (races : Count) :
    (request manager clock service races).Obeys law := by
  have hcomposes := hlaw.toComposes
  refine Obeys.bind hcomposes (hlaw.disabled service) fun answer => ?_
  refine Obeys.bind hcomposes (obeys_accept hlaw.toLogLaw _ answer) fun disabled => ?_
  refine Obeys.bind hcomposes (obeys_checkOutput hlaw.toLogLaw disabled races) fun races => ?_
  refine Obeys.bind hcomposes (hlaw.bootedOut service) fun answer => ?_
  refine Obeys.bind hcomposes (obeys_accept hlaw.toLogLaw _ answer) fun bootedOut => ?_
  refine Obeys.bind hcomposes (obeys_checkOutput hlaw.toLogLaw bootedOut races) fun races => ?_
  exact obeys_pure hcomposes _

theorem obeys_checkTimeout (hlaw : StopLaw manager clock law) (policy : StopPolicy)
    (service : Service) (started : Nat) (report : StopReport) (lastCommand : String) :
    (checkTimeout clock policy service started report lastCommand).Obeys law := by
  unfold checkTimeout
  split
  · exact obeys_done hlaw.toComposes ()
  · refine Obeys.bind hlaw.toComposes hlaw.told fun time => ?_
    dsimp only
    split
    · exact obeys_trap hlaw.toLogLaw _ _
    · exact obeys_pure hlaw.toComposes ()

theorem obeys_stopRounds (hlaw : StopLaw manager clock law) (policy : StopPolicy)
    (service : Service) (started rounds : Nat) (report : StopReport) (lastCommand : String) :
    (stopRounds manager clock policy service started rounds report lastCommand).Obeys law := by
  have hcomposes := hlaw.toComposes
  induction rounds generalizing report lastCommand with
  | zero => exact obeys_halt hcomposes _
  | succ rounds ih =>
      have hlist : (list manager clock service).Obeys law :=
        Obeys.bind hcomposes (hlaw.listed service) (obeys_accept hlaw.toLogLaw _)
      refine Obeys.bind hcomposes hlist fun loaded => ?_
      split
      · split
        · exact Obeys.bind hcomposes (hlaw.said _) fun _ => obeys_pure hcomposes _
        · refine Obeys.bind hcomposes (obeys_checkTimeout hlaw _ _ _ _ _) fun _ => ?_
          refine Obeys.bind hcomposes (hlaw.said _) fun _ => ?_
          refine Obeys.bind hcomposes (obeys_request hlaw service _) fun requested => ?_
          refine Obeys.bind hcomposes (hlaw.paused _) fun _ => ?_
          exact Obeys.bind hcomposes (hlaw.said _) fun _ => ih _ _
      · exact obeys_pure hcomposes _

theorem obeys_stop (hlaw : StopLaw manager clock law) (policy : StopPolicy) (rounds : Nat)
    (service : Service) : (stop manager clock policy rounds service).Obeys law :=
  Obeys.bind hlaw.toComposes hlaw.told fun _ => obeys_stopRounds hlaw _ _ _ _ _ _

theorem obeys_stopAll (hlaw : StopLaw manager clock law) (policy : StopPolicy) (rounds : Nat)
    (services : List Service) : (stopAll manager clock policy rounds services).Obeys law := by
  have hcomposes := hlaw.toComposes
  induction services with
  | nil => exact obeys_done hcomposes []
  | cons service rest ih =>
      exact Obeys.bind hcomposes (obeys_stop hlaw policy rounds service) fun report =>
        Obeys.bind hcomposes ih fun reports => obeys_pure hcomposes _

theorem obeys_cleanup (hlaw : CleanLaw clock law) (dryRun : Bool) (target : Target) :
    (cleanup clock dryRun target).Obeys law := by
  have hcomposes := hlaw.toComposes
  refine Obeys.bind hcomposes (hlaw.tested target) fun present => ?_
  split
  · split
    · exact Obeys.bind hcomposes (hlaw.said _) fun _ => obeys_pure hcomposes _
    · refine Obeys.bind hcomposes (hlaw.said _) fun _ => ?_
      refine Obeys.bind hcomposes (hlaw.removed target) fun answer => ?_
      cases answer with
      | error cause => exact obeys_trap hlaw.toLogLaw _ _
      | ok _ => exact Obeys.bind hcomposes (hlaw.said _) fun _ => obeys_pure hcomposes _
  · exact obeys_pure hcomposes _

theorem obeys_cleanupAll (hlaw : CleanLaw clock law) (dryRun : Bool) (targets : List Target) :
    (cleanupAll clock dryRun targets).Obeys law := by
  have hcomposes := hlaw.toComposes
  induction targets with
  | nil => exact obeys_done hcomposes []
  | cons target rest ih =>
      exact Obeys.bind hcomposes (obeys_cleanup hlaw dryRun target) fun outcome =>
        Obeys.bind hcomposes ih fun outcomes => obeys_pure hcomposes _

theorem obeys_enter (hlaw : LogLaw clock law) (stage : Stage) :
    (enter clock stage : Act σ τ Unit).Obeys law := by
  refine Obeys.bind hlaw.toComposes (fun scene => hlaw.nothing scene) fun progress => ?_
  split
  · exact fun scene => hlaw.moved _ (hlaw.nothing scene)
  · exact obeys_trap hlaw _ _

theorem obeys_stopping (hlaw : StopLaw manager clock law) (rounds : Nat) (config : Config) :
    (stopping manager clock rounds config).Obeys law := by
  have hcomposes := hlaw.toComposes
  refine Obeys.bind hcomposes (obeys_enter hlaw.toLogLaw _) fun _ => ?_
  refine Obeys.bind hcomposes (hlaw.said _) fun _ => ?_
  exact obeys_stopAll hlaw _ _ _

theorem obeys_cleaning (hlaw : CleanLaw clock law) (config : Config) :
    (cleaning clock config).Obeys law :=
  Obeys.bind hlaw.toComposes (obeys_enter hlaw.toLogLaw _) fun _ => obeys_cleanupAll hlaw _ _

theorem obeys_finishing (hlaw : LogLaw clock law) : (finishing clock).Obeys law :=
  Obeys.bind hlaw.toComposes (obeys_enter hlaw _) fun _ => hlaw.said _

theorem obeys_run (hstop : StopLaw manager clock law) (hclean : CleanLaw clock law)
    (rounds : Nat) (config : Config) : (run manager clock rounds config).Obeys law := by
  have hlaw := hstop.toLogLaw
  have hcomposes := hlaw.toComposes
  have hexecute : (execute manager clock rounds config).Obeys law := by
    rw [execute_eq]
    refine Obeys.bind hcomposes (obeys_stopping hstop rounds config) fun stops => ?_
    refine Obeys.bind hcomposes (obeys_cleaning hclean config) fun outcomes => ?_
    exact Obeys.bind hcomposes (obeys_finishing hlaw) fun _ => obeys_pure hcomposes _
  intro scene
  rw [run_of_execute rfl]
  exact hlaw.moved _ (hexecute scene)

end Obeys

end Decommission.Act
