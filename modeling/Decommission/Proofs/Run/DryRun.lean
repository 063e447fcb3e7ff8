import Decommission.FileSystem.Arrange
import Decommission.Proofs.Run.Events
import Decommission.Proofs.Run.Lines
import Decommission.Proofs.Run.Success
import Decommission.Rehearsal.Script
import Decommission.Rehearsal.Time

/-!
# Dry runs

A dry run queries every service once and looks for every target.  It requests nothing and removes
nothing, it fails over a query only, and otherwise it comes to an end with a report.
-/

namespace Decommission

/-! ## What a dry run shows -/

section Shapes

variable {log : RunLog} {config : Config} {events : List Event}

theorem Stopping.exists_unknown {policy : StopPolicy} {service : Service} {fault : Fault}
    (hdry : policy.dryRun = true)
    (hstop : Stopping log policy service {} "" events (.failed fault)) :
    (Transcript.of events).calls = [.listed service (.error fault)] := by
  cases hstop with
  | unknown => rfl
  | late hreal | denied hreal | round hreal =>
      rw [hdry] at hreal
      cases hreal

theorem CleaningAll.ne_removed {targets : List Target} {ending : Ending (List CleanupOutcome)}
    (hcleans : CleaningAll log true targets events ending) :
    ∀ event ∈ events, ∀ target answer, event ≠ .removed target answer := by
  refine InTurn.forall_events hcleans ?_
  intro target _ events ending hclean
  cases hclean with
  | absent | rehearsed => simp
  | removed hreal | stuck hreal => cases hreal

/-- A dry run attempts no removal. -/
theorem Running.ne_removed {start last : Progress} {ending : Ending RunReport}
    (hdry : config.dryRun = true) (hrun : Running log config start events ending last) :
    ∀ event ∈ events, ∀ target answer, event ≠ .removed target answer := by
  have hstopping : ∀ {events : List Event}, (∀ event ∈ events, event.target? = none) →
      ∀ event ∈ events, ∀ target answer, event ≠ .removed target answer := by
    rintro events hnone _ hevent target answer rfl
    cases hnone _ hevent
  cases hrun with
  | refused => simp
  | notStopped _ hstops => simpa using hstopping hstops.target?_eq_none
  | notCleaned _ hstops hcleans =>
      rw [hdry] at hcleans
      rw [List.cons_append, List.forall_mem_cons, List.forall_mem_append]
      exact ⟨by simp, hstopping hstops.target?_eq_none, hcleans.ne_removed⟩
  | complete _ hstops hcleans =>
      rw [hdry] at hcleans
      rw [List.forall_mem_append, List.cons_append, List.forall_mem_cons, List.forall_mem_append]
      exact ⟨⟨by simp, hstopping hstops.target?_eq_none, hcleans.ne_removed⟩, by simp⟩

end Shapes

/-- The records of a dry run in which the services were loaded and the targets were there as
told. -/
structure Rehearsed (config : Config) (events : List Event) (report : RunReport)
    (queries : List (Service × Bool)) (finds : List (Target × Bool)) : Prop where
  services : queries.map Prod.fst = config.services
  targets : finds.map Prod.fst = config.targets
  /-- Each service is queried once, and that is all. -/
  calls : (Transcript.of events).calls = queries.map fun query => .listed query.1 (.ok query.2)
  messages : (Transcript.of events).messages =
    "[DRY RUN] Preinstall started" ::
      (queries.filter (·.2)).map (fun query => "[DRY RUN] Would stop " ++ query.1.name) ++
      (finds.filter (·.2)).map (fun find => "[DRY RUN] Would remove " ++ find.1.path.display) ++
      ["Preinstall Completed Successfully"]
  looks : (Transcript.of events).looks = finds
  stopped : report.stopped = (queries.filter (·.2)).map (·.1.name)
  splits : report.Splits finds
  races : report.benignRaces = 0

section Running

variable {log : RunLog} {config : Config} {start last : Progress} {events : List Event}

theorem flatMap_singleton_if {ι β : Type} (items : List (ι × Bool)) (f : ι → β) :
    (items.flatMap fun item => if item.2 then [f item.1] else []) =
      (items.filter (·.2)).map fun item => f item.1 := by
  induction items with
  | nil => rfl
  | cons item rest ih =>
      rw [List.flatMap_cons, ih]
      cases hitem : item.2 <;> simp [hitem]

theorem RunReport.benignRaces_of_queries (queries : List (Service × Bool))
    (targets : List (Target × CleanupOutcome)) :
    (of (queries.map fun query => (query.1.name, { wasRunning := query.2 })) targets).benignRaces =
      0 := by
  induction queries with
  | nil => rfl
  | cons query rest ih => simpa [of] using ih

theorem Running.exists_rehearsed {report : RunReport} (hdry : config.dryRun = true)
    (hrun : Running log config start events (.done report) last) :
    (∃ queries finds, Rehearsed config events report queries finds) ∧
      last = { start with stage := .done } := by
  cases hrun with
  | notStopped _ _ hcut => cases hcut
  | notCleaned _ _ _ hcut => cases hcut
  | @complete stopped reports cleaned outcomes stamp stamp' _ hstops hcleans =>
      obtain ⟨queries, hservices, hstopped, rfl⟩ := hstops.exists_loaded hdry
      obtain ⟨finds, htargets, hcleaned, rfl⟩ := hcleans.exists_present
      have htold := Transcript.of_complete config stamp stamp' stopped cleaned
      rw [hstopped, hcleaned, hdry] at htold
      have hopening : Act.opening config = "[DRY RUN] Preinstall started" := by
        simp [Act.opening, hdry]
      refine ⟨⟨queries, finds, hservices, htargets, ?calls, ?messages, ?looks, ?stopped, ?splits,
        RunReport.benignRaces_of_queries _ _⟩, rfl⟩
      case calls =>
        rw [htold]
        simp [Transcript.calls_join, queryTold, Target.told, ← List.map_eq_flatMap]
      case messages =>
        rw [htold]
        have hqueried := flatMap_singleton_if queries ("[DRY RUN] Would stop " ++ ·.name)
        have hfound := flatMap_singleton_if finds ("[DRY RUN] Would remove " ++ ·.path.display)
        simp [Transcript.messages_join, queryTold, Target.told, hopening, hqueried, hfound]
      case looks =>
        rw [htold]
        simp [Transcript.looks_join, queryTold, Target.told]
      case stopped =>
        simp [RunReport.of, List.filter_map, Function.comp_def]
      case splits =>
        rw [← htargets]
        exact RunReport.splits_of _ _ finds

/-- A dry run that has not begun before fails over the first query that fails, and asks no more. -/
theorem Running.exists_failed_query {fault : Fault} (hdry : config.dryRun = true)
    (hstart : start.stage = .start)
    (hrun : Running log config start events (.failed fault) last) :
    ∃ (queries : List (Service × Bool)) (service : Service) (back : List Service),
      config.services = queries.map Prod.fst ++ service :: back ∧
        (Transcript.of events).calls =
          (queries.map fun query => .listed query.1 (.ok query.2)) ++
            [.listed service (.error fault)] := by
  generalize hending : Ending.failed fault = ending at hrun
  cases hrun with
  | refused hrefused => exact absurd hrefused (Progress.not_refused_of_start hstart)
  | complete => cases hending
  | notCleaned _ _ hcleans hcut =>
      rw [hdry] at hcleans
      obtain ⟨outcomes, rfl⟩ := hcleans.exists_done
      cases hcut
  | @notStopped stopped _ _ stamp _ hstops hcut =>
      subst hending
      cases hcut
      obtain ⟨front, service, back, earlier, reports, final, hservices, rfl, hfront, hfinal⟩ :=
        InTurn.exists_front hstops
      have hall : StoppingAll log config.stopPolicy front earlier (.done reports) := hfront
      obtain ⟨queries, rfl, hearlier, -⟩ := hall.exists_loaded hdry
      refine ⟨queries, service, back, hservices, ?_⟩
      have hopened : Transcript.of (.said stamp (Act.opening config) :: (earlier ++ final)) =
          ⟨[], [Act.opening config], []⟩ ++ (Transcript.of earlier ++ Transcript.of final) := by
        rw [← Transcript.of_append]
        rfl
      rw [hopened, Transcript.calls_append, Transcript.calls_append, hearlier,
        hfinal.exists_unknown hdry]
      simp [Transcript.calls_join, queryTold, ← List.map_eq_flatMap]

end Running

/-! ## Acts that come to an end -/

namespace Act

variable {σ τ α β : Type}

/-- The act has a result or fails.  It is never given up. -/
def Concludes (act : Act σ τ α) : Prop :=
  ∀ scene reason, (act scene).ending ≠ .halted reason

theorem Concludes.bind {act : Act σ τ α} {next : α → Act σ τ β} (hact : act.Concludes)
    (hnext : ∀ value, (next value).Concludes) : (act >>= next).Concludes := by
  intro scene reason
  cases hperformed : act scene with
  | mk ending events middle =>
      cases ending with
      | done value =>
          rw [bind_of_done hperformed]
          exact hnext value middle reason
      | failed fault =>
          rw [bind_of_failed hperformed]
          simp
      | halted other =>
          have hending := hact scene other
          rw [hperformed] at hending
          exact absurd rfl hending

theorem concludes_pure (value : α) : (pure value : Act σ τ α).Concludes :=
  fun _ _ => nofun

theorem concludes_say (clock : Clock τ) (message : String) :
    (say clock message : Act σ τ Unit).Concludes :=
  fun _ _ => nofun

theorem concludes_trap (clock : Clock τ) (caller : Origin) (fault : Fault) :
    (trap clock caller fault : Act σ τ α).Concludes :=
  fun _ _ => nofun

theorem concludes_enter (clock : Clock τ) (stage : Stage) :
    (enter clock stage : Act σ τ Unit).Concludes := by
  refine Concludes.bind (fun _ _ => nofun) fun progress => ?_
  split
  · exact fun _ _ => nofun
  · exact concludes_trap clock _ _

theorem concludes_list (manager : Manager σ) (clock : Clock τ) (service : Service) :
    (list manager clock service).Concludes := by
  refine Concludes.bind (fun _ _ => nofun) fun answer => ?_
  cases answer with
  | ok loaded => exact concludes_pure loaded
  | error fault => exact concludes_trap clock _ _

/-- In a dry run one query is enough. -/
theorem concludes_stop (manager : Manager σ) (clock : Clock τ) {policy : StopPolicy}
    (hdry : policy.dryRun = true) (rounds : Nat) (service : Service) :
    (stop manager clock policy (rounds + 1) service).Concludes := by
  refine Concludes.bind (fun _ _ => nofun) fun started => ?_
  refine Concludes.bind (concludes_list manager clock service) fun loaded => ?_
  cases loaded with
  | false => exact concludes_pure _
  | true =>
      rw [if_pos rfl, if_pos hdry]
      exact Concludes.bind (concludes_say clock _) fun _ => concludes_pure _

theorem concludes_stopAll (manager : Manager σ) (clock : Clock τ) {policy : StopPolicy}
    (hdry : policy.dryRun = true) (rounds : Nat) (services : List Service) :
    (stopAll manager clock policy (rounds + 1) services).Concludes := by
  induction services with
  | nil => exact concludes_pure _
  | cons service rest ih =>
      refine Concludes.bind (concludes_stop manager clock hdry rounds service) fun report => ?_
      exact Concludes.bind ih fun reports => concludes_pure _

theorem concludes_cleanup (clock : Clock τ) (dryRun : Bool) (target : Target) :
    (cleanup clock dryRun target : Act σ τ CleanupOutcome).Concludes := by
  refine Concludes.bind (fun _ _ => nofun) fun present => ?_
  split
  · split
    · exact Concludes.bind (concludes_say clock _) fun _ => concludes_pure _
    · refine Concludes.bind (concludes_say clock _) fun _ => ?_
      refine Concludes.bind (fun _ _ => nofun) fun answer => ?_
      cases answer with
      | error cause => exact concludes_trap clock _ _
      | ok _ => exact Concludes.bind (concludes_say clock _) fun _ => concludes_pure _
  · exact concludes_pure _

theorem concludes_cleanupAll (clock : Clock τ) (dryRun : Bool) (targets : List Target) :
    (cleanupAll clock dryRun targets : Act σ τ (List CleanupOutcome)).Concludes := by
  induction targets with
  | nil => exact concludes_pure _
  | cons target rest ih =>
      refine Concludes.bind (concludes_cleanup clock dryRun target) fun outcome => ?_
      exact Concludes.bind ih fun outcomes => concludes_pure _

theorem concludes_run (manager : Manager σ) (clock : Clock τ) (rounds : Nat) {config : Config}
    (hdry : config.dryRun = true) : (run manager clock (rounds + 1) config).Concludes := by
  have hexecute : (execute manager clock (rounds + 1) config).Concludes := by
    refine Concludes.bind (concludes_enter clock _) fun _ => ?_
    refine Concludes.bind (concludes_say clock _) fun _ => ?_
    refine Concludes.bind (concludes_stopAll manager clock hdry rounds _) fun stops => ?_
    refine Concludes.bind (concludes_enter clock _) fun _ => ?_
    refine Concludes.bind (concludes_cleanupAll clock _ _) fun outcomes => ?_
    refine Concludes.bind (concludes_enter clock _) fun _ => ?_
    exact Concludes.bind (concludes_say clock _) fun _ => concludes_pure _
  intro scene reason
  rw [run_of_execute rfl]
  exact hexecute scene reason

/-! ## Dry runs -/

/-- A dry run changes nothing but the run log. -/
theorem onlyLogs_run (manager : Manager σ) (clock : Clock τ) (rounds : Nat) {config : Config}
    (hdry : config.dryRun = true) : (run manager clock rounds config).Obeys OnlyLogs := by
  have hlaw := stopLaw_onlyLogs manager clock
  have hcomposes := composes_onlyLogs (σ := σ) (τ := τ)
  have hcleaning : (cleaning clock config : Act σ τ _).Obeys OnlyLogs := by
    refine Obeys.bind hcomposes (obeys_enter hlaw.toLogLaw _) fun _ => ?_
    rw [hdry]
    exact onlyLogs_cleanupAll clock config.targets
  have hexecute : (execute manager clock rounds config).Obeys OnlyLogs := by
    rw [execute_eq]
    refine Obeys.bind hcomposes (obeys_stopping hlaw rounds config) fun stops => ?_
    refine Obeys.bind hcomposes hcleaning fun outcomes => ?_
    exact Obeys.bind hcomposes (obeys_finishing hlaw.toLogLaw) fun _ => obeys_pure hcomposes _
  intro scene
  rw [run_of_execute rfl]
  exact hlaw.moved _ (hexecute scene)

/-- What a dry run does. -/
structure DryRun (manager : Manager σ) (config : Config) (scene : Scene σ τ)
    (performed : Performance σ τ RunReport) : Prop where
  /-- The manager gave the answers in the events. -/
  consults : Consults manager scene performed.events performed.scene
  /-- The targets were there or not as told. -/
  accounts : Accounts scene performed.events performed.scene
  unremoved : ∀ event ∈ performed.events, ∀ target answer, event ≠ .removed target answer
  onlyLogs : OnlyLogs scene performed.events performed.scene
  kept : ∀ place entry, scene.files.entry? place = some entry →
    performed.scene.files.entry? place = some entry
  ending : match performed.ending with
    | .done report =>
        (∃ queries finds, Rehearsed config performed.events report queries finds) ∧
          performed.scene.progress = ⟨.done, none⟩
    | .failed fault => ∃ (queries : List (Service × Bool)) (service : Service)
        (back : List Service), config.services = queries.map Prod.fst ++ service :: back ∧
          (Transcript.of performed.events).calls =
            (queries.map fun query => .listed query.1 (.ok query.2)) ++
              [.listed service (.error fault)]
    | .halted _ => False

/-- A dry run asks each service once in turn, up to a query that fails, and changes nothing but the
run log.  Unless a query fails it is done, and reports what a run would have to do. -/
theorem run_dry (manager : Manager σ) (clock : Clock τ) (rounds : Nat) (config : Config)
    (scene : Scene σ τ) (hdry : config.dryRun = true) (hfresh : scene.progress = .fresh) :
    DryRun manager config scene (run manager clock (rounds + 1) config scene) := by
  have hrun := run_shows manager clock (rounds + 1) config scene
  have hlogs := onlyLogs_run manager clock (rounds + 1) hdry scene
  have haccounts := accounts_run manager clock (rounds + 1) config scene
  have hconcludes := concludes_run manager clock rounds hdry scene
  have hconsults := consults_run manager clock (rounds + 1) config scene
  generalize run manager clock (rounds + 1) config scene = performed
    at hrun hlogs haccounts hconcludes hconsults ⊢
  dsimp only at hrun
  rw [hfresh] at hrun
  refine ⟨hconsults, haccounts, hrun.ne_removed hdry, hlogs, hlogs.isPart.entry, ?ending⟩
  case ending =>
    cases hending : performed.ending with
    | done report =>
        rw [hending] at hrun
        exact hrun.exists_rehearsed hdry
    | failed fault =>
        rw [hending] at hrun
        exact hrun.exists_failed_query hdry rfl
    | halted reason => exact hconcludes reason hending

open Rehearsal in
theorem run_dry_installed :
    let config : Config := { Config.standard with dryRun := true }
    let scene : Scene Scripted Time :=
      { manager.script.loaded := [("com.saltstack.salt.minion", 2)]
        clock := {}
        files := FileSystem.empty.makeDirectory (.ofString "/opt/salt/bin")
        log := .opened Config.defaultLogPath "preinstall"
        progress := .fresh }
    let performed := run Scripted.manager Time.clock 1 config scene
    config.dryRun = true ∧ scene.progress = .fresh ∧
      performed.ending =
        .done ⟨["salt-minion"], [.ofString "/opt/salt"],
          [.ofString "/usr/local/sbin/salt-config", .ofString "/etc/paths.d/salt"], 0⟩ ∧
      DryRun Scripted.manager config scene performed :=
  ⟨rfl, rfl, rfl, run_dry _ _ 0 _ _ rfl rfl⟩

end Act

end Decommission
