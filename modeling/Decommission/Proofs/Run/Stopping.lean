import Decommission.Proofs.Run.Shape
import Decommission.Run.Stop

/-!
# What stopping shows

All that can be seen while a service is stopped: rounds of a query and two requests, and after them
one of the ways in which stopping ends.  Several services are stopped in turn.
-/

namespace Decommission

namespace ControlOutput

/-- The request was carried out, or another actor is carrying it out already. -/
def IsAccepted (output : ControlOutput) : Prop :=
  output.code = 0 ∨ output.code = benignRaceCode

/-- The races with those of one more request. -/
def countedIn (output : ControlOutput) (races : Count) : Count :=
  if output.outcome = .benignRace then races + 1 else races

end ControlOutput

/-- The answer to a request is no success, and this is the fault of it. -/
inductive Denied : Except Fault ControlOutput → Fault → Prop where
  | error (fault : Fault) : Denied (.error fault) fault
  | code {output : ControlOutput} (hcode : ¬output.IsAccepted) :
      Denied (.ok output) (.service output.code output.command .stopping)

section Shapes

variable (log : RunLog) (policy : StopPolicy) (service : Service)

/-- The events and the ending of one round of requests. -/
inductive Requesting (races : Count) : List Event → Ending (Count × String) → Prop where
  | notDisabled {answer fault stamp} (hdenied : Denied answer fault) :
      Requesting races
        [.disabled service answer, .trapped stamp (log.fatal .stopping fault)] (.failed fault)
  | notBootedOut {output answer fault stamp} (hdisabled : output.IsAccepted)
      (hdenied : Denied answer fault) :
      Requesting races
        [.disabled service (.ok output), .bootedOut service answer,
          .trapped stamp (log.fatal .stopping fault)]
        (.failed fault)
  | accepted {output output'} (hdisabled : output.IsAccepted) (hbootedOut : output'.IsAccepted) :
      Requesting races
        [.disabled service (.ok output), .bootedOut service (.ok output')]
        (.done (output'.countedIn (output.countedIn races), output'.command))

/-- The events and the ending of stopping a service, given the report and the last command of the
rounds before. -/
inductive Stopping : StopReport → String → List Event → Ending StopReport → Prop where
  | absent {report last} :
      Stopping report last [.listed service (.ok false)] (.done report)
  | unknown {report last fault stamp} :
      Stopping report last
        [.listed service (.error fault), .trapped stamp (log.fatal .stopping fault)]
        (.failed fault)
  | rehearsed {report last stamp} (hdry : policy.dryRun = true) :
      Stopping report last
        [.listed service (.ok true), .said stamp ("[DRY RUN] Would stop " ++ service.name)]
        (.done { report with wasRunning := true })
  | late {report last limit waited stamp} (hdry : policy.dryRun = false)
      (hlimit : policy.timeout = some limit) (hpasses : 0 < report.passes)
      (hwaited : limit ≤ waited) :
      Stopping report last
        [.listed service (.ok true), .trapped stamp
          (log.fatal .stopping (.stopTimeout service.name waited last .stopping))]
        (.failed (.stopTimeout service.name waited last .stopping))
  | denied {report last events fault stamp} (hdry : policy.dryRun = false)
      (hrequest : Requesting log service report.benignRaces events (.failed fault)) :
      Stopping report last
        (.listed service (.ok true) :: .said stamp ("Stopping " ++ service.name ++ "...") ::
          events)
        (.failed fault)
  | interrupted {report last events requested signal stamp} (hdry : policy.dryRun = false)
      (hrequest : Requesting log service report.benignRaces events (.done requested)) :
      Stopping report last
        (.listed service (.ok true) :: .said stamp ("Stopping " ++ service.name ++ "...") ::
          events ++ [.paused policy.pollInterval])
        (.halted (.signal signal))
  | round {report last races command events more ending stamp stamp'} (hdry : policy.dryRun = false)
      (hrequest : Requesting log service report.benignRaces events (.done (races, command)))
      (hrest : Stopping
        { wasRunning := true, passes := report.passes + 1, benignRaces := races } command
        more ending) :
      Stopping report last
        (.listed service (.ok true) :: .said stamp ("Stopping " ++ service.name ++ "...") ::
          events ++ .paused policy.pollInterval :: .said stamp' "Stopped Successfully" :: more)
        ending
  | exhausted {report last} : Stopping report last [] (.halted .exhausted)

/-- The events and the ending of stopping services in turn. -/
def StoppingAll : List Service → List Event → Ending (List (String × StopReport)) → Prop :=
  InTurn (fun service => Stopping log policy service {} "")
    fun service report => (service.name, report)

end Shapes

namespace Act

variable {σ τ α : Type} {log : RunLog} {progress : Progress}

theorem shows_checkOutput_bind {clock : Clock τ} {shape : List Event → Ending α → Prop}
    {output : ControlOutput} {races : Count} {next : Count → Act σ τ α}
    (hok : output.IsAccepted → (next (output.countedIn races)).Shows log progress shape)
    (herror : ∀ fault stamp, Denied (.ok output) fault →
      shape [.trapped stamp (log.fatal .stopping fault)] (.failed fault)) :
    (checkOutput clock output races >>= next).Shows log progress shape := by
  unfold checkOutput checkCode ControlOutcome.ofCode
  by_cases hzero : output.code = 0
  · rw [if_pos hzero]
    exact hok (Or.inl hzero)
  rw [if_neg hzero]
  by_cases hrace : output.code = benignRaceCode
  · rw [if_pos hrace]
    exact hok (Or.inr hrace)
  · rw [if_neg hrace]
    exact shows_trap_bind fun stamp => herror _ stamp (.code fun h => h.elim hzero hrace)

theorem shows_checkTimeout_bind {clock : Clock τ} {shape : List Event → Ending α → Prop}
    {policy : StopPolicy} {service : Service} {started : Nat} {report : StopReport}
    {lastCommand : String} {next : Unit → Act σ τ α}
    (hnext : (next ()).Shows log progress shape)
    (hlate : ∀ limit waited stamp, policy.timeout = some limit → 0 < report.passes →
      limit ≤ waited →
        shape [.trapped stamp
          (log.fatal .stopping (.stopTimeout service.name waited lastCommand .stopping))]
          (.failed (.stopTimeout service.name waited lastCommand .stopping))) :
    (checkTimeout clock policy service started report lastCommand >>= next).Shows log progress
      shape := by
  unfold checkTimeout
  cases hlimit : policy.timeout with
  | none => exact hnext
  | some limit =>
      simp only [bind_assoc]
      refine shows_now_bind fun time => ?_
      by_cases hwaited : 0 < report.passes ∧ limit ≤ time - started
      · rw [if_pos hwaited]
        exact shows_trap_bind fun stamp => hlate limit _ stamp hlimit hwaited.1 hwaited.2
      · rw [if_neg hwaited]
        exact hnext

theorem shows_request (manager : Manager σ) (clock : Clock τ) (service : Service) (races : Count) :
    (request manager clock service races).Shows log progress (Requesting log service races) := by
  refine shows_ask_bind fun answer => ?_
  refine shows_accept_bind (fun output hanswer => ?_) ?_
  · subst hanswer
    refine shows_checkOutput_bind (fun hdisabled => ?_) fun _ _ hdenied => .notDisabled hdenied
    refine shows_ask_bind fun answer => ?_
    refine shows_accept_bind (fun output' hanswer => ?_) ?_
    · subst hanswer
      refine shows_checkOutput_bind (fun hbootedOut => ?_)
        fun _ _ hdenied => .notBootedOut hdisabled hdenied
      exact shows_pure (.accepted hdisabled hbootedOut)
    · rintro fault stamp rfl
      exact .notBootedOut hdisabled (.error fault)
  · rintro fault stamp rfl
    exact .notDisabled (.error fault)

theorem shows_stopRounds (manager : Manager σ) (clock : Clock τ) (policy : StopPolicy)
    (service : Service) (started rounds : Nat) (report : StopReport) (lastCommand : String) :
    (stopRounds manager clock policy service started rounds report lastCommand).Shows log progress
      (Stopping log policy service report lastCommand) := by
  induction rounds generalizing report lastCommand with
  | zero => exact shows_halt .exhausted
  | succ rounds ih =>
      unfold stopRounds list
      rw [bind_assoc]
      refine shows_ask_bind fun answer => shows_accept_bind (fun loaded hanswer => ?_) ?_
      · subst hanswer
        cases loaded with
        | false => exact shows_pure .absent
        | true =>
            rw [if_pos rfl]
            cases hdry : policy.dryRun with
            | true =>
                rw [if_pos rfl]
                exact shows_say_bind fun stamp => shows_pure (.rehearsed hdry)
            | false =>
                rw [if_neg (by simp)]
                refine shows_checkTimeout_bind (shows_say_bind fun stamp => ?_)
                  fun _ _ _ hlimit hpasses hwaited => .late hdry hlimit hpasses hwaited
                refine Shows.bind (shows_request manager clock service _) ?_ ?_
                · intro events ending other hrequest hcut
                  cases hcut with
                  | failed fault => exact .denied hdry hrequest
                  | halted reason => cases hrequest
                · rintro events ⟨races, command⟩ hrequest
                  refine shows_pause_bind (fun signal => .interrupted hdry hrequest) ?_
                  refine shows_say_bind fun stamp' => ?_
                  exact (ih _ _).mono fun more ending hrest => .round hdry hrequest hrest
      · rintro fault stamp rfl
        exact .unknown

theorem shows_stop (manager : Manager σ) (clock : Clock τ) (policy : StopPolicy) (rounds : Nat)
    (service : Service) : (stop manager clock policy rounds service).Shows log progress
      (Stopping log policy service {} "") :=
  shows_now_bind fun started => shows_stopRounds manager clock policy service started rounds {} ""

theorem shows_stopAll (manager : Manager σ) (clock : Clock τ) (policy : StopPolicy) (rounds : Nat)
    (services : List Service) : (stopAll manager clock policy rounds services).Shows log progress
      (StoppingAll log policy services) := by
  induction services with
  | nil => exact shows_done .nil
  | cons service rest ih =>
      exact shows_inTurn_cons (shows_stop manager clock policy rounds service) ih

end Act

end Decommission
