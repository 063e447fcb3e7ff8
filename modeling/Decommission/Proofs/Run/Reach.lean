import Decommission.Proofs.Run.Events
import Decommission.Proofs.Run.Fatal

/-!
# How far a failed run gets

A run that fails has dealt in turn with the services and targets that come before the one it fails
over.  It leaves alone the ones that come after it.
-/

namespace Decommission

/-- The events before `cause`, which is about one of the services or one of the targets.  Those
before it in the list have been dealt with in turn, and those after it not at all. -/
inductive Reaches (config : Config) (cause : Event) : Stage → List Event → Prop where
  | service {stamp front service back segments events}
      (hservices : config.services = front ++ service :: back)
      (hfront : List.Forall₂ (fun service segment => ∀ event ∈ segment, event.Concerns service)
        front segments)
      (hevents : ∀ event ∈ events, event.Concerns service)
      (hcause : cause.service? = some service) :
      Reaches config cause .stoppingServices
        (.said stamp (Act.opening config) :: segments.flatten ++ events)
  | target {stopped front target back segments events}
      (hstopped : ∀ event ∈ stopped, event.target? = none)
      (htargets : config.targets = front ++ target :: back)
      (hfront : List.Forall₂ (fun target segment => ∀ event ∈ segment, event.Handles target)
        front segments)
      (hevents : ∀ event ∈ events, event.Handles target)
      (hcause : cause.target? = some target) :
      Reaches config cause .cleaningArtifacts (stopped ++ segments.flatten ++ events)

namespace Event.Causes

variable {policy : StopPolicy} {cause : Event} {fault : Fault} {stage : Stage} {caller : Origin}

theorem service?_eq_some {service : Service} (hcauses : cause.Causes policy fault stage caller)
    (hstage : stage = .stoppingServices) (hconcerns : cause.Concerns service) :
    cause.service? = some service := by
  have hsome : ∃ other, cause.service? = some other := by
    cases hcauses with
    | unknown | late | notDisabled | notBootedOut => exact ⟨_, rfl⟩
    | stuck => cases hstage
  obtain ⟨other, hother⟩ := hsome
  rw [hother, hconcerns.2 other hother]

theorem target?_eq_some {target : Target} (hcauses : cause.Causes policy fault stage caller)
    (hstage : stage = .cleaningArtifacts) (hhandles : cause.Handles target) :
    cause.target? = some target := by
  have hsome : ∃ other, cause.target? = some other := by
    cases hcauses with
    | stuck => exact ⟨_, rfl⟩
    | unknown | late | notDisabled | notBootedOut => cases hstage
  obtain ⟨other, hother⟩ := hsome
  rw [hother, hhandles.2 other hother]

end Event.Causes

section Shapes

variable {log : RunLog} {config : Config} {events : List Event} {fault : Fault}

theorem StoppingAll.reaches (stamp : Stamp)
    (hstops : StoppingAll log config.stopPolicy config.services events (.failed fault)) :
    ∃ earlier cause record,
      Event.said stamp (Act.opening config) :: events = earlier ++ [cause, record] ∧
        Reaches config cause .stoppingServices earlier := by
  obtain ⟨front, service, back, segments, final, hservices, rfl, hfront, hfinal⟩ :=
    InTurn.exists_failed hstops
  obtain ⟨earlier, cause, stamp', caller, rfl, hcauses, -⟩ := hfinal.records
  have hconcerns := hfinal.concerns
  rw [List.forall_mem_append] at hconcerns
  have hcause := hcauses.service?_eq_some rfl (hconcerns.2 cause (by simp))
  have hsegments : List.Forall₂ (fun service segment => ∀ event ∈ segment, event.Concerns service)
      front segments := by
    apply hfront.imp
    rintro other segment ⟨report, hstop⟩
    exact hstop.concerns
  refine ⟨.said stamp (Act.opening config) :: segments.flatten ++ earlier, cause,
    .trapped stamp' (log.fatal caller fault), ?_,
    .service hservices hsegments hconcerns.1 hcause⟩
  rw [← List.cons_append, ← List.append_assoc]

theorem CleaningAll.reaches {stopped : List Event}
    (hcleans : CleaningAll log config.dryRun config.targets events (.failed fault))
    (hstopped : ∀ event ∈ stopped, event.target? = none) :
    ∃ earlier cause record, stopped ++ events = earlier ++ [cause, record] ∧
      Reaches config cause .cleaningArtifacts earlier := by
  obtain ⟨front, target, back, segments, final, htargets, rfl, hfront, hfinal⟩ :=
    InTurn.exists_failed hcleans
  have hrecords : Records log config.stopPolicy .cleaningArtifacts final (.failed fault) :=
    hfinal.records
  obtain ⟨earlier, cause, stamp, caller, rfl, hcauses, -⟩ := hrecords
  have hhandles := hfinal.handles
  rw [List.forall_mem_append] at hhandles
  have hcause := hcauses.target?_eq_some rfl (hhandles.2 cause (by simp))
  have hsegments : List.Forall₂ (fun target segment => ∀ event ∈ segment, event.Handles target)
      front segments := by
    apply hfront.imp
    rintro other segment ⟨outcome, hclean⟩
    exact hclean.handles
  refine ⟨stopped ++ segments.flatten ++ earlier, cause, .trapped stamp (log.fatal caller fault), ?_,
    .target hstopped htargets hsegments hhandles.1 hcause⟩
  rw [← List.append_assoc, ← List.append_assoc]

/-- In a run that has not begun before. -/
theorem Running.reaches {start last : Progress} (hstart : start.stage = .start)
    (hrun : Running log config start events (.failed fault) last) :
    ∃ earlier cause record stage, events = earlier ++ [cause, record] ∧
      Reaches config cause stage earlier ∧ last = ⟨.aborted, some stage⟩ := by
  generalize hending : Ending.failed fault = ending at hrun
  cases hrun with
  | refused hrefused => exact absurd hrefused (Progress.not_refused_of_start hstart)
  | @notStopped _ _ _ stamp _ hstops hcut =>
      subst hending
      cases hcut
      obtain ⟨earlier, cause, record, hevents, hreaches⟩ := hstops.reaches stamp
      exact ⟨earlier, cause, record, _, hevents, hreaches, rfl⟩
  | @notCleaned stopped _ _ _ _ stamp _ hstops hcleans hcut =>
      subst hending
      cases hcut
      have hstopped : ∀ event ∈ Event.said stamp (Act.opening config) :: stopped,
          event.target? = none :=
        List.forall_mem_cons.mpr ⟨rfl, hstops.target?_eq_none⟩
      obtain ⟨earlier, cause, record, hevents, hreaches⟩ := hcleans.reaches hstopped
      exact ⟨earlier, cause, record, _, hevents, hreaches, rfl⟩
  | complete => cases hending

end Shapes

namespace Act

variable {σ τ : Type}

/-- A run that fails has one fatal record, of the fault it fails with, and that comes last, right
after what brought the fault about.  Any other run has none. -/
theorem run_records_fault (manager : Manager σ) (clock : Clock τ) (rounds : Nat) (config : Config)
    (scene : Scene σ τ) :
    let performed := run manager clock rounds config { scene with progress := .fresh }
    match performed.ending with
    | .failed fault => ∃ earlier cause stamp stage caller,
        performed.events = earlier ++ [cause, .trapped stamp
          (scene.log.entryPoint ++ " caught error: " ++ toString fault.code ++ " on line " ++
            (fault.origin?.getD caller).display ++ " command was: " ++ fault.command)] ∧
        cause.Causes config.stopPolicy fault stage caller ∧
        (∀ event ∈ earlier, event.IsSmooth) ∧
        Reaches config cause stage earlier ∧
        performed.scene.progress = ⟨.aborted, some stage⟩
    | .done _ | .halted _ => ∀ event ∈ performed.events, event.IsSmooth := by
  dsimp only
  have hrun := run_shows manager clock rounds config { scene with progress := .fresh }
  dsimp only at hrun
  obtain ⟨stage, hrecords, hlast⟩ := hrun.records rfl
  cases hending : (run manager clock rounds config { scene with progress := .fresh }).ending with
  | failed fault =>
      rw [hending] at hrun hrecords
      obtain ⟨earlier, cause, stamp, caller, hevents, hcause, hearlier⟩ := hrecords
      obtain ⟨before, reached, record, other, hbefore, hreaches, hother⟩ := hrun.reaches rfl
      -- Both split the same events, two before the end.
      have hstage : other = stage := by
        have hprogress := hother.symm.trans (hlast fault hending)
        cases hprogress
        rfl
      have hsplit : before = earlier ∧ [reached, record] = [cause, _] :=
        List.append_inj' (hbefore.symm.trans hevents) rfl
      obtain ⟨rfl, hends⟩ := hsplit
      cases hends
      subst hstage
      exact ⟨before, cause, stamp, other, caller, hevents, hcause, hearlier, hreaches,
        hlast fault hending⟩
  | done _ | halted _ =>
      rw [hending] at hrecords
      exact hrecords

end Act

end Decommission
