import Decommission.Proofs.Run.Running

/-!
# What events are about

While services are stopped no target is touched, and stopping one service puts no question about
another.  While targets are dealt with the manager is asked nothing.
-/

namespace Decommission

namespace Event

/-- The service that the manager is asked about. -/
def service? : Event → Option Service
  | .listed service _ | .disabled service _ | .bootedOut service _ => some service
  | _ => none

/-- The target that is looked for or removed. -/
def target? : Event → Option Target
  | .tested target _ | .removed target _ => some target
  | _ => none

/-- No target is touched, and the manager is asked about no other service. -/
def Concerns (service : Service) (event : Event) : Prop :=
  event.target? = none ∧ ∀ other, event.service? = some other → other = service

section Concerns

variable (service : Service)

@[simp]
theorem concerns_listed (answer : Except Fault Bool) :
    (listed service answer).Concerns service := by
  simp [Concerns, service?, target?]

@[simp]
theorem concerns_disabled (answer : Except Fault ControlOutput) :
    (disabled service answer).Concerns service := by
  simp [Concerns, service?, target?]

@[simp]
theorem concerns_bootedOut (answer : Except Fault ControlOutput) :
    (bootedOut service answer).Concerns service := by
  simp [Concerns, service?, target?]

@[simp]
theorem concerns_paused (duration : Nat) : (paused duration).Concerns service := by
  simp [Concerns, service?, target?]

@[simp]
theorem concerns_said (stamp : Stamp) (message : String) :
    (said stamp message).Concerns service := by
  simp [Concerns, service?, target?]

@[simp]
theorem concerns_trapped (stamp : Stamp) (message : String) :
    (trapped stamp message).Concerns service := by
  simp [Concerns, service?, target?]

end Concerns

/-- The manager is asked nothing, and no other target is looked for or removed. -/
def Handles (target : Target) (event : Event) : Prop :=
  event.service? = none ∧ ∀ other, event.target? = some other → other = target

end Event

section Shapes

variable {log : RunLog} {policy : StopPolicy} {service : Service} {events : List Event}

theorem Requesting.concerns {races : Count} {ending : Ending (Count × String)}
    (hrequest : Requesting log service races events ending) :
    ∀ event ∈ events, event.Concerns service := by
  cases hrequest <;> simp

theorem Stopping.concerns {report : StopReport} {last : String} {ending : Ending StopReport}
    (hstop : Stopping log policy service report last events ending) :
    ∀ event ∈ events, event.Concerns service := by
  induction hstop with
  | absent | unknown | rehearsed | late | exhausted => simp
  | denied hdry hrequest =>
      have hevents := hrequest.concerns
      simpa using hevents
  | interrupted hdry hrequest =>
      have hevents := hrequest.concerns
      simpa [List.forall_mem_append, or_imp, forall_and] using hevents
  | round hdry hrequest hrest ih =>
      have hevents := hrequest.concerns
      simpa [or_imp, forall_and] using And.intro hevents ih

theorem StoppingAll.target?_eq_none {services : List Service}
    {ending : Ending (List (String × StopReport))}
    (hstops : StoppingAll log policy services events ending) :
    ∀ event ∈ events, event.target? = none := by
  have hone : ∀ service ∈ services, ∀ events ending,
      Stopping log policy service {} "" events ending → ∀ event ∈ events, event.target? = none := by
    intro service _ events ending hstop event hevent
    exact (hstop.concerns event hevent).1
  exact InTurn.forall_events hstops hone

theorem Cleaning.handles {dryRun : Bool} {target : Target} {ending : Ending CleanupOutcome}
    (hclean : Cleaning log dryRun target events ending) :
    ∀ event ∈ events, event.Handles target := by
  cases hclean <;> simp [Event.Handles, Event.service?, Event.target?]

theorem CleaningAll.service?_eq_none {dryRun : Bool} {targets : List Target}
    {ending : Ending (List CleanupOutcome)}
    (hcleans : CleaningAll log dryRun targets events ending) :
    ∀ event ∈ events, event.service? = none := by
  have hone : ∀ target ∈ targets, ∀ events ending,
      Cleaning log dryRun target events ending → ∀ event ∈ events, event.service? = none := by
    intro target _ events ending hclean event hevent
    exact (hclean.handles event hevent).1
  exact InTurn.forall_events hcleans hone

end Shapes

end Decommission
