import Decommission.FileSystem.Arrange
import Decommission.Proofs.Run.Events
import Decommission.Proofs.Run.Lines
import Decommission.Rehearsal.Script
import Decommission.Rehearsal.Time

/-!
# Services first, targets afterwards

A run asks the manager about services until each of them is found not loaded, and only then looks at
targets.  When stopping fails, no target has been touched.
-/

namespace Decommission

/-- A service counts as stopped only after a query that finds it not loaded. -/
theorem Stopping.exists_last {log : RunLog} {policy : StopPolicy} {service : Service}
    {events : List Event} {report final : StopReport} {last : String}
    (hdry : policy.dryRun = false)
    (hstop : Stopping log policy service report last events (.done final)) :
    ∃ earlier, events = earlier ++ [.listed service (.ok false)] := by
  generalize hending : Ending.done final = ending at hstop
  induction hstop with
  | absent => exact ⟨[], rfl⟩
  | rehearsed hrehearsed =>
      rw [hdry] at hrehearsed
      cases hrehearsed
  | round hdry hrequest hrest ih =>
      obtain ⟨earlier, rfl⟩ := ih hending
      rw [← List.cons_append, ← List.cons_append, ← List.append_assoc]
      exact ⟨_, rfl⟩
  | unknown | late | denied | interrupted | exhausted => cases hending

/-- These are the events of stopping a service.  They end with a query that finds it not loaded, and
no request follows. -/
structure Settled (service : Service) (events : List Event) : Prop where
  concerned : ∀ event ∈ events, event.Concerns service
  last : ∃ earlier, events = earlier ++ [.listed service (.ok false)]

section Running

variable {log : RunLog} {config : Config} {start last : Progress} {events : List Event}
variable {ending : Ending RunReport}

theorem Running.exists_parts (hrun : Running log config start events ending last) :
    ∃ stopped cleaned, events = stopped ++ cleaned ∧
      (∀ event ∈ stopped, event.target? = none) ∧ ∀ event ∈ cleaned, event.service? = none := by
  have hlines : ∀ stamp events, (∀ event ∈ events, event.target? = none) →
      ∀ event ∈ Event.said stamp (Act.opening config) :: events, event.target? = none := by
    intro stamp events hevents
    simpa [Event.target?] using hevents
  cases hrun with
  | @refused refusal stamp hstart =>
      exact ⟨[_], [], rfl, by simp [Event.target?], by simp⟩
  | @notStopped events ending other stamp hstart hstops hcut =>
      exact ⟨_, [], (List.append_nil _).symm, hlines stamp _ hstops.target?_eq_none, by simp⟩
  | @notCleaned events reports more ending other stamp hstart hstops hcleans hcut =>
      exact ⟨_, more, rfl, hlines stamp _ hstops.target?_eq_none, hcleans.service?_eq_none⟩
  | @complete events reports more outcomes stamp stamp' hstart hstops hcleans =>
      refine ⟨_, more ++ [.said stamp' _], List.append_assoc _ _ _,
        hlines stamp _ hstops.target?_eq_none, ?_⟩
      rw [List.forall_mem_append]
      exact ⟨hcleans.service?_eq_none, by simp [Event.service?]⟩

theorem StoppingAll.exists_segments {policy : StopPolicy} {services : List Service}
    {reports : List (String × StopReport)} (hdry : policy.dryRun = false)
    (hstops : StoppingAll log policy services events (.done reports)) :
    ∃ segments : List (List Event), events = segments.flatten ∧
      List.Forall₂ Settled services segments := by
  obtain ⟨segments, hevents, hsegments⟩ := InTurn.segments hstops
  refine ⟨segments, hevents, hsegments.imp ?_⟩
  rintro service segment ⟨report, hstop⟩
  exact ⟨hstop.concerns, hstop.exists_last hdry⟩

theorem Running.exists_segments (hdry : config.dryRun = false)
    (hrun : Running log config start events ending last)
    (htouched : ∃ event ∈ events, event.target? ≠ none) :
    ∃ stamp segments cleaned,
      events = .said stamp "Preinstall started" :: segments.flatten ++ cleaned ∧
        List.Forall₂ Settled config.services segments ∧
          ∀ event ∈ cleaned, event.service? = none := by
  have hopening : Act.opening config = "Preinstall started" := by
    simp [Act.opening, hdry]
  obtain ⟨event, hmem, htarget⟩ := htouched
  cases hrun with
  | refused hstart =>
      rw [List.mem_singleton] at hmem
      subst hmem
      exact absurd rfl htarget
  | notStopped hstart hstops hcut =>
      rcases List.mem_cons.mp hmem with rfl | hmem
      · exact absurd rfl htarget
      · exact absurd (hstops.target?_eq_none event hmem) htarget
  | @notCleaned events reports more ending other stamp hstart hstops hcleans hcut =>
      obtain ⟨segments, rfl, hsegments⟩ := hstops.exists_segments hdry
      rw [hopening]
      exact ⟨stamp, segments, more, rfl, hsegments, hcleans.service?_eq_none⟩
  | @complete events reports more outcomes stamp stamp' hstart hstops hcleans =>
      obtain ⟨segments, rfl, hsegments⟩ := hstops.exists_segments hdry
      rw [hopening]
      refine ⟨stamp, segments, more ++ [.said stamp' _], List.append_assoc _ _ _, hsegments, ?_⟩
      rw [List.forall_mem_append]
      exact ⟨hcleans.service?_eq_none, by simp [Event.service?]⟩

end Running

namespace Act

variable {σ τ : Type}

/-- The order in which a run deals with services and targets. -/
structure StopsFirst (manager : Manager σ) (clock : Clock τ) (rounds : Nat) (config : Config)
    (scene : Scene σ τ) : Prop where
  /-- The manager is asked about services first, and targets are touched afterwards. -/
  ordered : ∃ stopped cleaned,
    (run manager clock rounds config scene).events = stopped ++ cleaned ∧
      (∀ event ∈ stopped, event.target? = none) ∧ ∀ event ∈ cleaned, event.service? = none
  /-- Once a target is touched, every service has been found not loaded. -/
  settled : (∃ event ∈ (run manager clock rounds config scene).events, event.target? ≠ none) →
    ∃ stamp segments cleaned, (run manager clock rounds config scene).events =
        .said stamp "Preinstall started" :: segments.flatten ++ cleaned ∧
      List.Forall₂ Settled config.services segments ∧ ∀ event ∈ cleaned, event.service? = none
  /-- When stopping fails the run fails, and there is nothing new but lines of the log. -/
  harmless : ∀ fault, (stopping manager clock rounds config scene).ending = .failed fault →
    (run manager clock rounds config scene).ending = .failed fault ∧
      (∀ event ∈ (run manager clock rounds config scene).events, event.target? = none) ∧
      OnlyLogs scene (run manager clock rounds config scene).events
        (run manager clock rounds config scene).scene ∧
      ∀ place entry, scene.files.entry? place = some entry →
        (run manager clock rounds config scene).scene.files.entry? place = some entry

theorem run_of_stopping_failed {manager : Manager σ} {clock : Clock τ} {rounds : Nat}
    {config : Config} {scene last : Scene σ τ} {fault : Fault} {events : List Event}
    (hstops : stopping manager clock rounds config scene = ⟨.failed fault, events, last⟩) :
    run manager clock rounds config scene =
      ⟨.failed fault, events, { last with progress := last.progress.abort }⟩ := by
  have hexecute : execute manager clock rounds config scene = ⟨.failed fault, events, last⟩ := by
    rw [execute_eq]
    exact bind_of_failed hstops
  exact run_of_execute hexecute

theorem target?_eq_none_of_stopping (manager : Manager σ) (clock : Clock τ) (rounds : Nat)
    (config : Config) (scene : Scene σ τ) :
    ∀ event ∈ (stopping manager clock rounds config scene).events, event.target? = none := by
  rcases stopping_cases manager clock rounds config scene with
    ⟨refusal, stamp, -, hevents, -, -⟩ | ⟨stamp, more, -, hevents, hstops, -⟩
  · rw [hevents]
    simp [Event.target?]
  · rw [hevents, List.forall_mem_cons]
    exact ⟨rfl, hstops.target?_eq_none⟩

/-- In a run that is no dry run, all services have been stopped before the first target is looked
at, and when that fails no entry has been removed. -/
theorem run_stopsFirst (manager : Manager σ) (clock : Clock τ) (rounds : Nat) (config : Config)
    (scene : Scene σ τ) (hdry : config.dryRun = false) :
    StopsFirst manager clock rounds config scene where
  ordered := (run_shows manager clock rounds config scene).exists_parts
  settled := (run_shows manager clock rounds config scene).exists_segments hdry
  harmless := by
    intro fault hfailed
    have htargets := target?_eq_none_of_stopping manager clock rounds config scene
    have hlogs := obeys_stopping (stopLaw_onlyLogs manager clock) rounds config scene
    cases hstops : stopping manager clock rounds config scene with
    | mk ending events last =>
        rw [hstops] at hfailed htargets hlogs
        cases hfailed
        rw [run_of_stopping_failed hstops]
        exact ⟨rfl, htargets, hlogs, hlogs.isPart.entry⟩

open Rehearsal in
theorem run_stopsFirst_installed :
    let scene : Scene Scripted Time :=
      { manager.script.loaded := [("com.saltstack.salt.minion", 2)]
        clock := {}
        files := FileSystem.empty.makeDirectory (.ofString "/opt/salt/bin")
        log := .opened Config.defaultLogPath "preinstall"
        progress := .fresh }
    (run Scripted.manager Time.clock 3 .standard scene).ending =
        .done ⟨["salt-minion"], [.ofString "/opt/salt"],
          [.ofString "/usr/local/sbin/salt-config", .ofString "/etc/paths.d/salt"], 0⟩ ∧
      StopsFirst Scripted.manager Time.clock 3 .standard scene :=
  ⟨rfl, run_stopsFirst _ _ _ _ _ rfl⟩

end Act

end Decommission
