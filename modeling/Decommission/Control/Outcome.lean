/-!
# Outcomes of control calls

A call to the control program ends with an exit code, or without one when a signal ended it.  Two
codes are no failure: zero, and the code of a service that another actor is already taking down.
-/

namespace Decommission

/-- The exit code of a request that another actor is already carrying out. -/
def benignRaceCode : Int := 36

/-- The code of a call that was ended by a signal. -/
def signalledCode : Int := -1

/-- What a control call comes to. -/
inductive ControlOutcome where
  | success
  /-- The request is already being carried out. -/
  | benignRace
  | failed (code : Int)
  deriving DecidableEq, Repr

namespace ControlOutcome

def ofCode (code : Int) : ControlOutcome :=
  if code = 0 then .success
  else if code = benignRaceCode then .benignRace
  else .failed code

/-- What the status of an ended call stands for. -/
def ofStatus : Option Int → ControlOutcome
  | some code => ofCode code
  | none => .failed signalledCode

def display : ControlOutcome → String
  | .success => "success"
  | .benignRace => "already in progress"
  | .failed code => "failed with exit code " ++ toString code

end ControlOutcome

/-- What is known about a control call that has ended. -/
structure ControlOutput where
  /-- The command as it is written to the run log. -/
  command : String
  /-- The exit code; `none` if a signal ended the call. -/
  exitCode : Option Int
  /-- What the call wrote to its error output. -/
  errorText : String
  deriving DecidableEq, Repr

namespace ControlOutput

def outcome (output : ControlOutput) : ControlOutcome := .ofStatus output.exitCode

/-- The exit code, with one for calls that were ended by a signal. -/
def code (output : ControlOutput) : Int := output.exitCode.getD signalledCode

/-- Classifying the status is classifying the code. -/
theorem outcome_eq_ofCode (output : ControlOutput) : output.outcome = .ofCode output.code := by
  unfold outcome code
  cases output.exitCode <;> rfl

end ControlOutput

end Decommission
