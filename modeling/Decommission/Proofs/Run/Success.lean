import Decommission.FileSystem.Arrange
import Decommission.Proofs.Run.Answers
import Decommission.Proofs.Run.Transcript
import Decommission.Rehearsal.Script
import Decommission.Rehearsal.Time

/-!
# Runs that succeed

Of a run that succeeds three records are kept: the calls of the manager, the messages of the run log
and the report.  All three tell of the same rounds for each service, and of the same targets that
were there.
-/

namespace Decommission

/-! ## Reports -/

/-- The report tells of these targets, in their order, which ones were there. -/
structure RunReport.Splits (report : RunReport) (finds : List (Target × Bool)) : Prop where
  removed : report.removed = (finds.filter (·.2)).map (·.1.path)
  skipped : report.skipped = (finds.filter (!·.2)).map (·.1.path)
  lengths : report.removed.length + report.skipped.length = finds.length

namespace RunReport

theorem splits_of (stops : List (String × StopReport)) (dryRun : Bool)
    (finds : List (Target × Bool)) :
    (of stops ((finds.map Prod.fst).zip
      (finds.map fun find => CleanupOutcome.ofPresent dryRun find.2))).Splits finds := by
  have hremoved : (of stops ((finds.map Prod.fst).zip
      (finds.map fun find => CleanupOutcome.ofPresent dryRun find.2))).removed =
        (finds.filter (·.2)).map (·.1.path) := by
    simp [of, List.zip_map', List.filter_map, Function.comp_def]
  have hskipped : (of stops ((finds.map Prod.fst).zip
      (finds.map fun find => CleanupOutcome.ofPresent dryRun find.2))).skipped =
        (finds.filter (!·.2)).map (·.1.path) := by
    simp [of, List.zip_map', List.filter_map, Function.comp_def]
  refine ⟨hremoved, hskipped, ?_⟩
  rw [hremoved, hskipped, List.length_map, List.length_map]
  exact (List.length_eq_length_filter_add Prod.snd).symm

variable (stops : List (Service × List Round)) (targets : List (Target × CleanupOutcome))

theorem stopped_of_rounds :
    (of (stops.map fun stop => (stop.1.name, Round.addTo {} stop.2)) targets).stopped =
      (stops.filter fun stop => !stop.2.isEmpty).map (·.1.name) := by
  simp [of, List.filter_map, Function.comp_def, Round.addTo]

theorem benignRaces_of_rounds :
    (of (stops.map fun stop => (stop.1.name, Round.addTo {} stop.2)) targets).benignRaces =
      .ofNat (countRaces (stops.flatMap fun stop => stop.2.flatMap Round.outputs)) := by
  induction stops with
  | nil => rfl
  | cons stop rest ih =>
      rw [List.flatMap_cons, countRaces_append, UInt32.ofNat_add, ← ih]
      simp [of, Round.addTo]

end RunReport

/-! ## Runs -/

/-- The records of a run in which the services were stopped in these rounds and the targets were
there as told. -/
structure Transcribed (config : Config) (events : List Event) (report : RunReport)
    (stops : List (Service × List Round)) (finds : List (Target × Bool)) : Prop where
  services : stops.map Prod.fst = config.services
  targets : finds.map Prod.fst = config.targets
  /-- Each service is queried and asked to stop round by round, until it is not loaded. -/
  calls : (Transcript.of events).calls = stops.flatMap fun stop =>
    stop.2.flatMap (Round.calls stop.1) ++ [.listed stop.1 (.ok false)]
  messages : (Transcript.of events).messages =
    "Preinstall started" ::
      (stops.flatMap fun stop => stop.2.flatMap fun _ =>
        ["Stopping " ++ stop.1.name ++ "...", "Stopped Successfully"]) ++
      (finds.flatMap fun find =>
        if find.2 then ["Removing " ++ find.1.path.display, "Removed Successfully"] else []) ++
      ["Preinstall Completed Successfully"]
  looks : (Transcript.of events).looks = finds
  stopped : report.stopped = (stops.filter fun stop => !stop.2.isEmpty).map (·.1.name)
  splits : report.Splits finds
  races : report.benignRaces =
    .ofNat (countRaces (stops.flatMap fun stop => stop.2.flatMap Round.outputs))

theorem Running.exists_transcribed {log : RunLog} {config : Config} {start last : Progress}
    {events : List Event} {report : RunReport} (hdry : config.dryRun = false)
    (hrun : Running log config start events (.done report) last) :
    ∃ stops finds, Transcribed config events report stops finds := by
  cases hrun with
  | notStopped _ _ hcut => cases hcut
  | notCleaned _ _ _ hcut => cases hcut
  | @complete stopped reports cleaned outcomes stamp stamp' _ hstops hcleans =>
      obtain ⟨stops, hservices, hstopped, rfl⟩ := hstops.exists_rounds hdry
      obtain ⟨finds, htargets, hcleaned, rfl⟩ := hcleans.exists_present
      have htold := Transcript.of_complete config stamp stamp' stopped cleaned
      rw [hstopped, hcleaned, hdry] at htold
      have hopening : Act.opening config = "Preinstall started" := by
        simp [Act.opening, hdry]
      refine ⟨stops, finds, hservices, htargets, ?calls, ?messages, ?looks,
        RunReport.stopped_of_rounds _ _, ?splits, RunReport.benignRaces_of_rounds _ _⟩
      case calls =>
        rw [htold]
        simp [Transcript.calls_join, Round.told, Target.told]
      case messages =>
        rw [htold]
        simp [Transcript.messages_join, Round.told, Target.told, hopening]
      case looks =>
        rw [htold]
        simp [Transcript.looks_join, Round.told, Target.told]
      case splits =>
        rw [← htargets]
        exact RunReport.splits_of _ _ finds

namespace Act

variable {σ τ : Type}

/-- The calls, the messages and the report of a run that succeeds tell of the same rounds and the
same targets.  The manager gave these answers, and the targets were there or not as told when they
were looked for. -/
theorem run_transcribed (manager : Manager σ) (clock : Clock τ) (rounds : Nat) (config : Config)
    (scene : Scene σ τ) (report : RunReport) (hdry : config.dryRun = false)
    (hdone : (run manager clock rounds config scene).ending = .done report) :
    let performed := run manager clock rounds config scene
    ∃ stops finds, Transcribed config performed.events report stops finds ∧
      Consults manager scene performed.events performed.scene ∧
      Accounts scene performed.events performed.scene := by
  have hrun := run_shows manager clock rounds config scene
  dsimp only at hrun
  rw [hdone] at hrun
  obtain ⟨stops, finds, htranscribed⟩ := hrun.exists_transcribed hdry
  exact ⟨stops, finds, htranscribed, consults_run manager clock rounds config scene,
    accounts_run manager clock rounds config scene⟩

open Rehearsal in
theorem run_transcribed_races :
    let scene : Scene Scripted Time :=
      { manager.script :=
          { loaded := [("com.saltstack.salt.minion", 2), ("com.saltstack.salt.api", 1)]
            disable := [("com.saltstack.salt.api", [.ok (some 36)])]
            bootOut := [("com.saltstack.salt.minion", [.ok (some 36), .ok (some 0)])] }
        clock := {}
        files := FileSystem.empty.makeDirectory (.ofString "/opt/salt/bin")
        log := .opened Config.defaultLogPath "preinstall"
        progress := .fresh }
    let report : RunReport :=
      ⟨["salt-minion", "salt-api"], [.ofString "/opt/salt"],
        [.ofString "/usr/local/sbin/salt-config", .ofString "/etc/paths.d/salt"], 2⟩
    let performed := run Scripted.manager Time.clock 3 .standard scene
    Config.standard.dryRun = false ∧ performed.ending = .done report ∧
      ∃ stops finds, Transcribed .standard performed.events report stops finds ∧
        Consults Scripted.manager scene performed.events performed.scene ∧
        Accounts scene performed.events performed.scene :=
  ⟨rfl, rfl, run_transcribed _ _ _ _ _ _ rfl rfl⟩

end Act

end Decommission
