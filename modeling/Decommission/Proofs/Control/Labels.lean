import Decommission.Control.Manager
import Mathlib.Data.List.Basic

/-!
# Managers by label

A manager keeps its services apart when what it answers for a label, and what becomes of that label,
depends on nothing but the calls it has had for this label.  So does every manager that has a state
of its own for each label and does not look at files.
-/

namespace Decommission

/-- A call of a service manager. -/
inductive Call where
  | query (service : Service)
  | disable (service : Service)
  | bootOut (service : Service)
  deriving DecidableEq, Repr

def Call.service : Call → Service
  | .query service | .disable service | .bootOut service => service

/-- What a manager answered to a call. -/
inductive Reply where
  | loaded (answer : Except Fault Bool)
  | output (answer : Except Fault ControlOutput)

/-- Calls that were made, each with the files as they were by then. -/
abbrev History := List (Call × FileSystem)

namespace History

/-- The calls for one label. -/
def callsFor (history : History) (label : String) : List Call :=
  (history.map Prod.fst).filter (·.service.label = label)

@[simp]
theorem callsFor_append (history more : History) (label : String) :
    callsFor (history ++ more) label = callsFor history label ++ callsFor more label := by
  simp [callsFor]

end History

namespace Manager

variable {σ κ : Type}

/-- The reply to a call, and the state of the manager after it. -/
def put (manager : Manager σ) (call : Call) (files : FileSystem) (state : σ) : Reply × σ :=
  match call with
  | .query service =>
      let (answer, state) := manager.isLoaded service files state
      (.loaded answer, state)
  | .disable service =>
      let (answer, state) := manager.disable service files state
      (.output answer, state)
  | .bootOut service =>
      let (answer, state) := manager.bootOut service files state
      (.output answer, state)

/-- The state of the manager after some calls. -/
def after (manager : Manager σ) (start : σ) (history : History) : σ :=
  history.foldl (fun state made => (manager.put made.1 made.2 state).2) start

@[simp]
theorem after_append (manager : Manager σ) (start : σ) (history more : History) :
    manager.after start (history ++ more) = manager.after (manager.after start history) more :=
  List.foldl_append

/-- From this state on, replies and state depend for each label on the earlier calls for it only. -/
structure IsByLabel (manager : Manager σ) (start : σ) : Prop where
  reply : ∀ (call : Call) (files files' : FileSystem) (history other : History),
    history.callsFor call.service.label = other.callsFor call.service.label →
      (manager.put call files (manager.after start history)).1 =
        (manager.put call files' (manager.after start other)).1
  state : ∀ history other : History, (∀ label, history.callsFor label = other.callsFor label) →
    manager.after start history = manager.after start other

/-! ## A state for each label -/

/-- The manager that has one of these states for every label. -/
def labelwise (manager : Manager κ) : Manager (String → κ) where
  isLoaded service files states :=
    let (answer, state) := manager.isLoaded service files (states service.label)
    (answer, Function.update states service.label state)
  disable service files states :=
    let (answer, state) := manager.disable service files (states service.label)
    (answer, Function.update states service.label state)
  bootOut service files states :=
    let (answer, state) := manager.bootOut service files (states service.label)
    (answer, Function.update states service.label state)

/-- The manager does not look at files. -/
def IsBlind (manager : Manager κ) : Prop :=
  ∀ call files files' state, manager.put call files state = manager.put call files' state

variable {manager : Manager κ}

theorem put_labelwise (call : Call) (files : FileSystem) (states : String → κ) :
    manager.labelwise.put call files states =
      ((manager.put call files (states call.service.label)).1,
        Function.update states call.service.label
          (manager.put call files (states call.service.label)).2) := by
  cases call <;> rfl

/-- A label goes its own way. -/
theorem after_labelwise (states : String → κ) (history : History) (label : String) :
    manager.labelwise.after states history label =
      manager.after (states label) (history.filter (·.1.service.label = label)) := by
  induction history generalizing states with
  | nil => rfl
  | cons made rest ih =>
      have hcons : manager.labelwise.after states (made :: rest) =
          manager.labelwise.after (manager.labelwise.put made.1 made.2 states).2 rest := rfl
      rw [hcons, ih, put_labelwise]
      by_cases hlabel : made.1.service.label = label
      · subst hlabel
        simp [after]
      · simp [hlabel, Function.update_of_ne (Ne.symm hlabel)]

theorem IsBlind.after_congr (hblind : manager.IsBlind) (start : κ) {history other : History}
    (hcalls : history.map Prod.fst = other.map Prod.fst) :
    manager.after start history = manager.after start other := by
  induction history generalizing start other with
  | nil =>
      obtain rfl : other = [] := by simpa using hcalls.symm
      rfl
  | cons made rest ih =>
      cases other with
      | nil => cases hcalls
      | cons made' rest' =>
          obtain ⟨hmade, hrest⟩ := List.cons.inj hcalls
          have hput := hblind made.1 made.2 made'.2 start
          show manager.after (manager.put made.1 made.2 start).2 rest =
            manager.after (manager.put made'.1 made'.2 start).2 rest'
          rw [ih _ hrest, hput, hmade]

theorem IsBlind.isByLabel (hblind : manager.IsBlind) (start : String → κ) :
    manager.labelwise.IsByLabel start := by
  have hstate : ∀ history other : History, ∀ label,
      history.callsFor label = other.callsFor label →
        manager.labelwise.after start history label =
          manager.labelwise.after start other label := by
    intro history other label hcalls
    rw [after_labelwise, after_labelwise]
    apply hblind.after_congr
    simpa [History.callsFor, List.filter_map, Function.comp_def] using hcalls
  constructor
  · intro call files files' history other hcalls
    rw [put_labelwise, put_labelwise, hstate history other _ hcalls, hblind call files files']
  · intro history other hcalls
    funext label
    exact hstate history other label (hcalls label)

/-- A manager for a single service, which has to be booted out so many times. -/
def countdown : Manager Nat where
  isLoaded _ _ left := (.ok (0 < left), left)
  disable service _ left := (.ok ⟨"launchctl disable system/" ++ service.label, some 0, ""⟩, left)
  bootOut service _ left :=
    (.ok ⟨"launchctl bootout system " ++ service.definition.display, some 0, ""⟩, left - 1)

theorem isBlind_countdown : countdown.IsBlind := by
  intro call _ _ _
  cases call <;> rfl

end Manager

end Decommission
