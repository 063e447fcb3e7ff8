import Decommission.Run.Act

/-!
# Stopping services

A service is stopped in rounds: it is queried, and while it is loaded it is disabled and booted out,
and after a pause queried again.  It counts as stopped only when a query finds it not loaded.

What is counted on the way is kept in 32 bits.
-/

namespace Decommission

/-- A number of things that have happened.  Behind the greatest one the count begins anew. -/
abbrev Count := UInt32

/-- A count is read as a number. -/
instance : CoeOut Count Nat := ⟨UInt32.toNat⟩

/-- So many things are counted as none. -/
theorem Count.ofNat_eq_zero_iff {number : Nat} :
    (.ofNat number : Count) = 0 ↔ UInt32.size ∣ number := by
  rw [UInt32.ofNat_eq_iff_mod_eq_toNat]
  exact Nat.dvd_iff_mod_eq_zero.symm

theorem Count.ofNat_succ (number : Nat) : (.ofNat (number + 1) : Count) = .ofNat number + 1 :=
  UInt32.ofNat_add number 1

/-- What happened while one service was stopped. -/
structure StopReport where
  /-- The service was loaded when first queried. -/
  wasRunning : Bool := false
  passes : Count := 0
  /-- The requests that another actor was already carrying out. -/
  benignRaces : Count := 0
  deriving DecidableEq, Repr

namespace Act

variable {σ τ : Type}

/-- Traps a code that stands for a failure. -/
def checkCode (clock : Clock τ) (caller origin : Origin) (code : Int) (command : String) :
    Act σ τ Unit :=
  match ControlOutcome.ofCode code with
  | .success | .benignRace => done ()
  | .failed code => trap clock caller (.service code command origin)

/-- Takes the output of a request: the races so far, with this one, or the failure trapped. -/
def checkOutput (clock : Clock τ) (output : ControlOutput) (races : Count) : Act σ τ Count := do
  checkCode clock .stopping .stopping output.code output.command
  return if output.outcome = .benignRace then races + 1 else races

def list (manager : Manager σ) (clock : Clock τ) (service : Service) : Act σ τ Bool := do
  accept clock .stopping (← ask (manager.isLoaded service) (.listed service))

/-- One round of requests for a loaded service: the number of races, and the last command. -/
def request (manager : Manager σ) (clock : Clock τ) (service : Service) (races : Count) :
    Act σ τ (Count × String) := do
  let disabled ← accept clock .stopping
    (← ask (manager.disable service) (.disabled service))
  let races ← checkOutput clock disabled races
  let bootedOut ← accept clock .stopping
    (← ask (manager.bootOut service) (.bootedOut service))
  let races ← checkOutput clock bootedOut races
  return (races, bootedOut.command)

/-- Gives a service up that has been waited for too long. -/
def checkTimeout (clock : Clock τ) (policy : StopPolicy) (service : Service) (started : Nat)
    (report : StopReport) (lastCommand : String) : Act σ τ Unit :=
  match policy.timeout with
  | none => done ()
  | some limit => do
      let waited := (← now clock) - started
      if 0 < report.passes ∧ limit ≤ waited then
        trap clock .stopping (.stopTimeout service.name waited lastCommand .stopping)

/-- Queries and requests until the service is not loaded, for at most so many rounds. -/
def stopRounds (manager : Manager σ) (clock : Clock τ) (policy : StopPolicy) (service : Service)
    (started : Nat) : (rounds : Nat) → StopReport → String → Act σ τ StopReport
  | 0, _, _ => halt .exhausted
  | rounds + 1, report, lastCommand => do
      if ← list manager clock service then
        let report := { report with wasRunning := true }
        if policy.dryRun then
          say clock ("[DRY RUN] Would stop " ++ service.name)
          return report
        checkTimeout clock policy service started report lastCommand
        say clock ("Stopping " ++ service.name ++ "...")
        let (benignRaces, lastCommand) ← request manager clock service report.benignRaces
        pause clock policy.pollInterval
        say clock "Stopped Successfully"
        stopRounds manager clock policy service started rounds
          { report with passes := report.passes + 1, benignRaces } lastCommand
      else return report

def stop (manager : Manager σ) (clock : Clock τ) (policy : StopPolicy) (rounds : Nat)
    (service : Service) : Act σ τ StopReport := do
  stopRounds manager clock policy service (← now clock) rounds {} ""

def stopAll (manager : Manager σ) (clock : Clock τ) (policy : StopPolicy) (rounds : Nat) :
    List Service → Act σ τ (List (String × StopReport))
  | [] => done []
  | service :: rest => do
      let report ← stop manager clock policy rounds service
      let reports ← stopAll manager clock policy rounds rest
      return (service.name, report) :: reports

end Act

end Decommission
