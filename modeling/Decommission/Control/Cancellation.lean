import Decommission.Control.Calls

/-!
# Cancelling calls

A cancellation takes all registered calls out of the set at once and asks each of them to end.  It
then looks every now and then which of them are still there, and kills the rest when the grace
period is over.  It works in small steps, so that several of them can be under way at a time.
-/

namespace Decommission

/-- What the system does to process groups.  A group that is gone takes no signal. -/
structure Groups (γ : Type) where
  /-- Asks a group to end. -/
  terminate : Group → γ → Bool × γ
  /-- Looks whether a group is there. -/
  probe : Group → γ → Bool × γ
  kill : Group → γ → γ
  /-- Milliseconds since some moment in the past. -/
  now : γ → Nat × γ
  rest : Nat → γ → γ

/-- What a cancellation has come to.  The grace period begins when every group has been asked. -/
inductive Phase where
  /-- Groups still to be asked, and those that took the signal. -/
  | asking (pending accepted : List Group)
  /-- Groups that may still be there. -/
  | waiting (deadline : Nat) (alive : List Group)
  /-- Groups still to be looked for, and those that are there. -/
  | probing (deadline : Nat) (pending alive : List Group)
  /-- Groups still to be killed. -/
  | killing (pending : List Group)
  deriving DecidableEq, Repr

/-- A cancellation under way. -/
structure Cancellation where
  phase : Phase
  /-- The length of the grace period. -/
  grace : Nat
  deriving DecidableEq, Repr

namespace Cancellation

/-- Milliseconds between two looks at the groups. -/
def pollInterval : Nat := 25

/-- Takes all calls out of the set to cancel them. -/
def begin (calls : Calls) (grace : Nat) : Cancellation × Calls :=
  (⟨.asking calls.groups [], grace⟩, .none)

def isFinished (cancellation : Cancellation) : Bool :=
  match cancellation.phase with
  | .asking [] [] | .waiting _ [] | .killing [] => true
  | _ => false

/-- Does one thing. -/
def step {γ : Type} (system : Groups γ) (cancellation : Cancellation) (state : γ) :
    Cancellation × γ :=
  let go (phase : Phase) (state : γ) : Cancellation × γ := ({ cancellation with phase }, state)
  match cancellation.phase with
  | .asking [] accepted =>
      let (time, state) := system.now state
      go (.waiting (time + cancellation.grace) accepted) state
  | .asking (group :: pending) accepted =>
      let (accepts, state) := system.terminate group state
      go (.asking pending (if accepts then accepted ++ [group] else accepted)) state
  | .waiting deadline alive =>
      let (time, state) := system.now state
      if deadline ≤ time then go (.killing alive) state
      else go (.probing deadline alive []) (system.rest pollInterval state)
  | .probing deadline [] alive => go (.waiting deadline alive) state
  | .probing deadline (group :: pending) alive =>
      let (isThere, state) := system.probe group state
      go (.probing deadline pending (if isThere then alive ++ [group] else alive)) state
  | .killing [] => go (.killing []) state
  | .killing (group :: pending) => go (.killing pending) (system.kill group state)

/-- Goes on until nothing is left to be done, for at most so many steps. -/
def finish {γ : Type} (system : Groups γ) : Nat → Cancellation → γ → γ
  | 0, _, state => state
  | steps + 1, cancellation, state =>
      if cancellation.isFinished then state
      else
        let (cancellation, state) := cancellation.step system state
        finish system steps cancellation state

/-- The number of steps that a cancellation with this grace takes at most, if every rest takes its
time. -/
def stepsFor (count grace : Nat) : Nat :=
  (count + 2) * (grace / pollInterval + 4)

end Cancellation

/-- Cancels all registered calls with some milliseconds of grace. -/
def Calls.terminate {γ : Type} (system : Groups γ) (grace : Nat) (calls : Calls) (state : γ) :
    Calls × γ :=
  let (cancellation, rest) := Cancellation.begin calls grace
  (rest, cancellation.finish system (Cancellation.stepsFor calls.inFlight grace) state)

end Decommission
