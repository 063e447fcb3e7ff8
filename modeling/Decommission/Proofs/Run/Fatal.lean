import Decommission.Proofs.Run.Running

/-!
# The one fatal record

Whatever goes wrong in a run, it goes wrong once: what brought the fault about is followed by the
record of the fault in the run log, and that is the last thing that happens.
-/

namespace Decommission

namespace Event

/-- The event is neither a failure nor the record of one. -/
def IsSmooth : Event → Prop
  | .listed _ answer => ∃ loaded, answer = .ok loaded
  | .disabled _ answer | .bootedOut _ answer => ∃ output, answer = .ok output ∧ output.IsAccepted
  | .removed _ answer => answer = .ok ()
  | .trapped _ _ => False
  | .paused _ | .tested _ _ | .said _ _ => True

/-- With the event the run comes to this fault, in this stage, and `caller` records it. -/
inductive Causes (policy : StopPolicy) : Event → Fault → Stage → Origin → Prop where
  | unknown {service fault} :
      Causes policy (.listed service (.error fault)) fault .stoppingServices .stopping
  | late {service limit waited command} (hlimit : policy.timeout = some limit)
      (hwaited : limit ≤ waited) :
      Causes policy (.listed service (.ok true))
        (.stopTimeout service.name waited command .stopping) .stoppingServices .stopping
  | notDisabled {service answer fault} (hdenied : Denied answer fault) :
      Causes policy (.disabled service answer) fault .stoppingServices .stopping
  | notBootedOut {service answer fault} (hdenied : Denied answer fault) :
      Causes policy (.bootedOut service answer) fault .stoppingServices .stopping
  | stuck {target cause} :
      Causes policy (.removed target (.error cause))
        (.cleanup target.path target.command cause .cleaning) .cleaningArtifacts .cleaning

end Event

section Records

variable (log : RunLog) (policy : StopPolicy) (stage : Stage)

/-- A fault has come up last and is on record, or all went smoothly. -/
def Records {α : Type} (events : List Event) : Ending α → Prop
  | .failed fault => ∃ earlier cause stamp caller,
      events = earlier ++ [cause, .trapped stamp (log.fatal caller fault)] ∧
        cause.Causes policy fault stage caller ∧ ∀ event ∈ earlier, event.IsSmooth
  | .done _ | .halted _ => ∀ event ∈ events, event.IsSmooth

end Records

namespace Records

variable {α β : Type} {log : RunLog} {policy : StopPolicy} {stage : Stage}
variable {events more : List Event}

theorem prepend {ending : Ending α} (hrecords : Records log policy stage more ending)
    (hsmooth : ∀ event ∈ events, event.IsSmooth) :
    Records log policy stage (events ++ more) ending := by
  cases ending with
  | failed fault =>
      obtain ⟨earlier, cause, stamp, caller, rfl, hcause, hearlier⟩ := hrecords
      refine ⟨events ++ earlier, cause, stamp, caller, (List.append_assoc _ _ _).symm, hcause, ?_⟩
      rw [List.forall_mem_append]
      exact ⟨hsmooth, hearlier⟩
  | done _ | halted _ =>
      show ∀ event ∈ events ++ more, event.IsSmooth
      rw [List.forall_mem_append]
      exact ⟨hsmooth, hrecords⟩

theorem of_cuts {ending : Ending α} {other : Ending β}
    (hrecords : Records log policy stage events ending) (hcut : ending.Cuts other) :
    Records log policy stage events other := by
  cases hcut <;> exact hrecords

theorem of_inTurn {ι : Type} {shape : ι → List Event → Ending α → Prop} {result : ι → α → β}
    {items : List ι} {ending : Ending (List β)} (hturn : InTurn shape result items events ending)
    (hshape : ∀ item events ending, shape item events ending →
      Records log policy stage events ending) :
    Records log policy stage events ending := by
  induction hturn with
  | nil => simp [Records]
  | done hitem hrest ih | later hitem hrest hcut ih =>
      first
        | exact prepend ih (hshape _ _ _ hitem)
        | exact (prepend ih (hshape _ _ _ hitem)).of_cuts hcut
  | cut hitem hcut => exact (hshape _ _ _ hitem).of_cuts hcut

end Records

section Shapes

variable {log : RunLog} {policy : StopPolicy} {service : Service} {events : List Event}

theorem Requesting.records {races : Count} {ending : Ending (Count × String)}
    (hrequest : Requesting log service races events ending) :
    Records log policy .stoppingServices events ending := by
  cases hrequest with
  | notDisabled hdenied =>
      exact ⟨[], _, _, _, rfl, .notDisabled hdenied, by simp⟩
  | @notBootedOut output answer fault stamp hdisabled hdenied =>
      refine ⟨[.disabled service (.ok output)], _, _, _, rfl, .notBootedOut hdenied, ?_⟩
      simpa [Event.IsSmooth] using hdisabled
  | accepted hdisabled hbootedOut =>
      simpa [Records, Event.IsSmooth] using And.intro hdisabled hbootedOut

theorem Stopping.records {report : StopReport} {last : String} {ending : Ending StopReport}
    (hstop : Stopping log policy service report last events ending) :
    Records log policy .stoppingServices events ending := by
  -- Every round begins with a query that was answered and a line that says so.
  have hround : ∀ stamp message,
      ∀ event ∈ [Event.listed service (.ok true), .said stamp message], event.IsSmooth := by
    simp [Event.IsSmooth]
  induction hstop with
  | absent => simp [Records, Event.IsSmooth]
  | unknown => exact ⟨[], _, _, _, rfl, .unknown, by simp⟩
  | rehearsed hdry => exact hround _ _
  | late hdry hlimit hpasses hwaited =>
      exact ⟨[], _, _, _, rfl, .late hlimit hwaited, by simp⟩
  | denied hdry hrequest => exact Records.prepend hrequest.records (hround _ _)
  | @interrupted report last events requested signal stamp hdry hrequest =>
      have hevents : Records log policy .stoppingServices events (.done requested) :=
        hrequest.records
      have hpause : Records log policy .stoppingServices [.paused policy.pollInterval]
          (.halted (.signal signal) : Ending StopReport) := by
        simp [Records, Event.IsSmooth]
      exact hpause.prepend (List.forall_mem_append.mpr ⟨hround stamp _, hevents⟩)
  | @round report last races command events more ending stamp stamp' hdry hrequest hrest ih =>
      have hevents : Records log policy .stoppingServices events (.done (races, command)) :=
        hrequest.records
      have hpause : ∀ event ∈
          [Event.paused policy.pollInterval, .said stamp' "Stopped Successfully"],
            event.IsSmooth := by
        simp [Event.IsSmooth]
      have hmore := ih.prepend hpause
      exact hmore.prepend (List.forall_mem_append.mpr ⟨hround stamp _, hevents⟩)
  | exhausted => simp [Records]

theorem StoppingAll.records {services : List Service}
    {ending : Ending (List (String × StopReport))}
    (hstops : StoppingAll log policy services events ending) :
    Records log policy .stoppingServices events ending :=
  Records.of_inTurn hstops fun _ _ _ hstop => hstop.records

theorem Cleaning.records {dryRun : Bool} {target : Target} {ending : Ending CleanupOutcome}
    (hclean : Cleaning log dryRun target events ending) :
    Records log policy .cleaningArtifacts events ending := by
  cases hclean with
  | absent => simp [Records, Event.IsSmooth]
  | rehearsed hdry => simp [Records, Event.IsSmooth]
  | removed hdry => simp [Records, Event.IsSmooth]
  | @stuck cause stamp stamp' hdry =>
      refine ⟨[.tested target true, .said stamp _], _, _, _, rfl, .stuck, ?_⟩
      simp [Event.IsSmooth]

/-- In a run that has not begun before. -/
theorem Running.records {config : Config} {start last : Progress} {ending : Ending RunReport}
    (hstart : start.stage = .start) (hrun : Running log config start events ending last) :
    ∃ stage, Records log config.stopPolicy stage events ending ∧
      (∀ fault, ending = .failed fault → last = ⟨.aborted, some stage⟩) := by
  have hline : ∀ stamp message, ∀ event ∈ [Event.said stamp message], event.IsSmooth := by
    simp [Event.IsSmooth]
  cases hrun with
  | refused hrefused => exact absurd hrefused (Progress.not_refused_of_start hstart)
  | notStopped _ hstops hcut =>
      refine ⟨.stoppingServices, (hstops.records.of_cuts hcut).prepend (hline _ _), ?_⟩
      rintro fault rfl
      rfl
  | @notCleaned events reports more ending other stamp _ hstops hcleans hcut =>
      have hstopped : Records log config.stopPolicy .stoppingServices events (.done reports) :=
        hstops.records
      have hrecords : Records log config.stopPolicy .cleaningArtifacts more ending :=
        Records.of_inTurn hcleans fun _ _ _ hclean => hclean.records
      have hmore := (hrecords.of_cuts hcut).prepend hstopped
      refine ⟨.cleaningArtifacts, hmore.prepend (hline _ _), ?_⟩
      rintro fault rfl
      rfl
  | @complete events reports more outcomes stamp stamp' _ hstops hcleans =>
      have hstopped : Records log config.stopPolicy .stoppingServices events (.done reports) :=
        hstops.records
      have hcleaned : Records log config.stopPolicy .cleaningArtifacts more (.done outcomes) :=
        Records.of_inTurn hcleans fun _ _ _ hclean => hclean.records
      refine ⟨.done, ?_, by simp⟩
      show ∀ event ∈ Event.said stamp (Act.opening config) :: events ++ more ++
        [.said stamp' "Preinstall Completed Successfully"], event.IsSmooth
      rw [List.forall_mem_append, List.forall_mem_append, List.forall_mem_cons]
      exact ⟨⟨⟨trivial, hstopped⟩, hcleaned⟩, hline _ _⟩

end Shapes

end Decommission
