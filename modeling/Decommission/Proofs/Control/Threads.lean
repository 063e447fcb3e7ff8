import Decommission.Control.Cancellation

/-!
# Threads

Any number of threads share one set of calls in flight.  They register calls and give handles back,
and they begin cancellations, be it by a call or by leaving a guarded part of the program.  A
cancellation goes on in steps of its own: between any two of them other threads do what they like,
and the system changes by itself.
-/

namespace Decommission

variable {γ : Type}

/-! ## Deeds -/

/-- What a cancellation does to the groups. -/
inductive Deed where
  /-- A group was asked to end, and took the signal or not. -/
  | asked (group : Group) (accepted : Bool)
  /-- A rest, with which a look at the groups that are left begins. -/
  | rested
  | probed (group : Group) (isThere : Bool)
  | killed (group : Group)
  deriving DecidableEq, Repr

/-- The same system, with a record of what is done to it. -/
def Groups.recorded (system : Groups γ) : Groups (γ × List Deed) where
  terminate group state :=
    let (accepts, next) := system.terminate group state.1
    (accepts, next, state.2 ++ [.asked group accepts])
  probe group state :=
    let (isThere, next) := system.probe group state.1
    (isThere, next, state.2 ++ [.probed group isThere])
  kill group state := (system.kill group state.1, state.2 ++ [.killed group])
  now state :=
    let (time, next) := system.now state.1
    (time, next, state.2)
  rest duration state := (system.rest duration state.1, state.2 ++ [.rested])

/-- All that one step of a cancellation can come to. -/
inductive Phase.Steps (system : Groups γ) (state : γ) (grace : Nat) :
    Phase → Phase → γ → List Deed → Prop where
  | asked {group pending accepted accepts next}
      (hterminate : system.terminate group state = (accepts, next)) :
      Steps system state grace (.asking (group :: pending) accepted)
        (.asking pending (if accepts then accepted ++ [group] else accepted)) next
        [.asked group accepts]
  /-- Every group has been asked, and the grace period begins. -/
  | settled {accepted time next} (haccepted : accepted ≠ [])
      (hnow : system.now state = (time, next)) :
      Steps system state grace (.asking [] accepted) (.waiting (time + grace) accepted) next []
  | rested {deadline alive time next} (halive : alive ≠ [])
      (hnow : system.now state = (time, next)) (hearly : time < deadline) :
      Steps system state grace (.waiting deadline alive) (.probing deadline alive [])
        (system.rest Cancellation.pollInterval next) [.rested]
  | expired {deadline alive time next} (halive : alive ≠ [])
      (hnow : system.now state = (time, next)) (hlate : deadline ≤ time) :
      Steps system state grace (.waiting deadline alive) (.killing alive) next []
  | probed {deadline group pending alive isThere next}
      (hprobe : system.probe group state = (isThere, next)) :
      Steps system state grace (.probing deadline (group :: pending) alive)
        (.probing deadline pending (if isThere then alive ++ [group] else alive)) next
        [.probed group isThere]
  | polled {deadline alive} :
      Steps system state grace (.probing deadline [] alive) (.waiting deadline alive) state []
  | killed {group pending} :
      Steps system state grace (.killing (group :: pending)) (.killing pending)
        (system.kill group state) [.killed group]

namespace Cancellation

variable {system : Groups γ} {cancellation : Cancellation} {state : γ}

theorem exists_steps (system : Groups γ) (state : γ) (hunfinished : cancellation.isFinished = false)
    (past : List Deed) :
    ∃ phase next deeds,
      cancellation.phase.Steps system state cancellation.grace phase next deeds ∧
      cancellation.step system state = ({ cancellation with phase }, next) ∧
      cancellation.step system.recorded (state, past) =
        ({ cancellation with phase }, next, past ++ deeds) := by
  obtain ⟨phase, grace⟩ := cancellation
  cases phase with
  | asking pending accepted =>
      cases pending with
      | nil =>
          have haccepted : accepted ≠ [] := by
            rintro rfl
            cases hunfinished
          exact ⟨_, _, [], .settled haccepted rfl, rfl, by rw [List.append_nil]; rfl⟩
      | cons group pending => exact ⟨_, _, _, .asked rfl, rfl, rfl⟩
  | waiting deadline alive =>
      have halive : alive ≠ [] := by
        rintro rfl
        cases hunfinished
      by_cases hlate : deadline ≤ (system.now state).1
      · refine ⟨_, _, [], .expired halive rfl hlate, ?_, ?_⟩
        · simp [step, hlate]
        · simp [step, Groups.recorded, hlate]
      · refine ⟨_, _, [.rested], .rested halive rfl (Nat.lt_of_not_le hlate), ?_, ?_⟩
        · simp [step, hlate]
        · simp [step, Groups.recorded, hlate]
  | probing deadline pending alive =>
      cases pending with
      | nil => exact ⟨_, _, [], .polled, rfl, by rw [List.append_nil]; rfl⟩
      | cons group pending => exact ⟨_, _, _, .probed rfl, rfl, rfl⟩
  | killing pending =>
      cases pending with
      | nil => cases hunfinished
      | cons group pending => exact ⟨_, _, _, .killed, rfl, rfl⟩

/-- Goes on until nothing is left to be done, for at most so many steps. -/
def goOn (system : Groups γ) : Nat → Cancellation → γ → Cancellation × γ
  | 0, cancellation, state => (cancellation, state)
  | steps + 1, cancellation, state =>
      if cancellation.isFinished then (cancellation, state)
      else
        let (cancellation, state) := cancellation.step system state
        goOn system steps cancellation state

theorem goOn_of_isFinished (hfinished : cancellation.isFinished) (steps : Nat) :
    cancellation.goOn system steps state = (cancellation, state) := by
  cases steps with
  | zero => rfl
  | succ steps => rw [goOn, if_pos hfinished]

theorem finish_eq (system : Groups γ) (steps : Nat) (cancellation : Cancellation) (state : γ) :
    cancellation.finish system steps state = (cancellation.goOn system steps state).2 := by
  induction steps generalizing cancellation state with
  | zero => rfl
  | succ steps ih =>
      rw [finish, goOn]
      split
      · rfl
      · exact ih _ _

end Cancellation

/-! ## Threads -/

/-- What the threads share, and what they hold. -/
structure Threads (γ : Type) where
  calls : Calls
  /-- The groups of the handles in the order in which they were taken, without those given back. -/
  handles : List (Option Group)
  /-- The cancellations in the order in which they were begun. -/
  cancellations : List Cancellation
  system : γ

/-- What happens next. -/
inductive Move (γ : Type) where
  /-- A call is registered, and a handle for it is taken. -/
  | track (group : Group)
  /-- A handle is given back. -/
  | drop (handle : Nat)
  /-- A cancellation begins. -/
  | cancel (grace : Nat)
  /-- A cancellation does one thing. -/
  | proceed (index : Nat)
  /-- The system changes by itself. -/
  | meanwhile (change : γ → γ)

/-- What can be seen of a move. -/
inductive Happening where
  | tracked (handle : Nat) (group : Group)
  | dropped (handle : Nat) (group : Group)
  /-- A cancellation took these groups out of the set. -/
  | taken (index : Nat) (groups : List Group)
  | did (index : Nat) (deed : Deed)
  deriving DecidableEq, Repr

namespace Threads

/-- Nothing is registered so far. -/
def fresh (state : γ) : Threads γ := ⟨.none, [], [], state⟩

def move (system : Groups γ) (threads : Threads γ) : Move γ → Threads γ × List Happening
  | .track group =>
      ({ threads with
          calls := threads.calls.track group
          handles := threads.handles ++ [some group] },
        [.tracked threads.handles.length group])
  | .drop handle =>
      match threads.handles[handle]? with
      | some (some group) =>
          ({ threads with
              calls := threads.calls.release group
              handles := threads.handles.set handle none },
            [.dropped handle group])
      | _ => (threads, [])
  | .cancel grace =>
      let (cancellation, calls) := Cancellation.begin threads.calls grace
      ({ threads with calls, cancellations := threads.cancellations ++ [cancellation] },
        [.taken threads.cancellations.length threads.calls.groups])
  | .proceed index =>
      match threads.cancellations[index]? with
      | none => (threads, [])
      | some cancellation =>
          if cancellation.isFinished then (threads, [])
          else
            let (cancellation, state, deeds) :=
              cancellation.step system.recorded (threads.system, [])
            ({ threads with
                cancellations := threads.cancellations.set index cancellation
                system := state },
              deeds.map (.did index))
  | .meanwhile change => ({ threads with system := change threads.system }, [])

/-- Move after move, with all that can be seen. -/
def play (system : Groups γ) (threads : Threads γ) : List (Move γ) → Threads γ × List Happening
  | [] => (threads, [])
  | move :: rest =>
      let (next, seen) := threads.move system move
      let (last, more) := next.play system rest
      (last, seen ++ more)

end Threads

/-- What one move can come to. -/
inductive Move.Makes (system : Groups γ) (threads : Threads γ) :
    Move γ → Threads γ × List Happening → Prop where
  | tracked {group} :
      Makes system threads (.track group)
        ({ threads with
            calls := threads.calls.track group
            handles := threads.handles ++ [some group] },
          [.tracked threads.handles.length group])
  | dropped {handle group} (hheld : threads.handles[handle]? = some (some group)) :
      Makes system threads (.drop handle)
        ({ threads with
            calls := threads.calls.release group
            handles := threads.handles.set handle none },
          [.dropped handle group])
  | taken {grace} :
      Makes system threads (.cancel grace)
        ({ threads with
            calls := .none
            cancellations := threads.cancellations ++ [⟨.asking threads.calls.groups [], grace⟩] },
          [.taken threads.cancellations.length threads.calls.groups])
  | did {index cancellation phase next deeds}
      (hindex : threads.cancellations[index]? = some cancellation)
      (hsteps : cancellation.phase.Steps system threads.system cancellation.grace phase next
        deeds) :
      Makes system threads (.proceed index)
        ({ threads with
            cancellations := threads.cancellations.set index { cancellation with phase }
            system := next },
          deeds.map (.did index))
  | changed {change} :
      Makes system threads (.meanwhile change) ({ threads with system := change threads.system }, [])
  /-- There is no such handle to be given back, or nothing left to be done. -/
  | idle {move} : Makes system threads move (threads, [])

namespace Threads

variable {system : Groups γ} {threads : Threads γ}

theorem makes_move (system : Groups γ) (threads : Threads γ) (move : Move γ) :
    move.Makes system threads (threads.move system move) := by
  cases move with
  | track group => exact .tracked
  | drop handle =>
      rw [Threads.move]
      split
      · rename_i group hheld
        exact .dropped hheld
      · exact .idle
  | cancel grace => exact .taken
  | proceed index =>
      rw [Threads.move]
      cases hindex : threads.cancellations[index]? with
      | none => exact .idle
      | some cancellation =>
          dsimp only
          cases hfinished : cancellation.isFinished with
          | true => exact .idle
          | false =>
              obtain ⟨phase, next, deeds, hsteps, -, hrecorded⟩ :=
                cancellation.exists_steps system threads.system hfinished []
              rw [if_neg (by simp), hrecorded]
              exact .did hindex hsteps
  | meanwhile change => exact .changed

/-- What every move keeps is kept by moves one after the other. -/
theorem keeps_play (property : List Happening → Threads γ → Prop) (system : Groups γ)
    (moves : List (Move γ))
    (hmoves : ∀ move ∈ moves, ∀ past threads result, move.Makes system threads result →
      property past threads → property (past ++ result.2) result.1)
    {past : List Happening} (hstart : property past threads) :
    property (past ++ (threads.play system moves).2) (threads.play system moves).1 := by
  induction moves generalizing past threads with
  | nil =>
      rw [play, List.append_nil]
      exact hstart
  | cons move rest ih =>
      have hmove := hmoves move (by simp) past threads _ (makes_move system threads move) hstart
      have hrest := ih (fun move hmem => hmoves move (by simp [hmem])) hmove
      rw [play, ← List.append_assoc]
      exact hrest

/-- When nothing else happens, a cancellation goes on as by itself. -/
theorem play_proceed (system : Groups γ) (threads : Threads γ) (index steps : Nat)
    {cancellation : Cancellation} (hindex : threads.cancellations[index]? = some cancellation) :
    (threads.play system (List.replicate steps (.proceed index))).1 =
      { threads with
        cancellations :=
          threads.cancellations.set index (cancellation.goOn system steps threads.system).1
        system := cancellation.finish system steps threads.system } := by
  rw [Cancellation.finish_eq]
  induction steps generalizing threads cancellation with
  | zero =>
      obtain ⟨hlt, rfl⟩ := List.getElem?_eq_some_iff.mp hindex
      rw [Cancellation.goOn, List.set_getElem_self]
      rfl
  | succ steps ih =>
      rw [List.replicate_succ, play, move, hindex, Cancellation.goOn]
      dsimp only
      cases hfinished : cancellation.isFinished with
      | true =>
          rw [if_pos rfl, if_pos rfl, ih threads hindex, Cancellation.goOn_of_isFinished hfinished]
      | false =>
          obtain ⟨phase, next, deeds, -, hstep, hrecorded⟩ :=
            cancellation.exists_steps system threads.system hfinished []
          have hlt := (List.getElem?_eq_some_iff.mp hindex).1
          rw [if_neg (by simp), if_neg (by simp), hrecorded, hstep,
            ih _ (List.getElem?_set_self hlt), List.set_set]

end Threads

end Decommission
