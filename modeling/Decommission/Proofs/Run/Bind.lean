import Decommission.Run.Perform

/-!
# Acts one after the other

An act whose first part has a result goes on with its second part; one whose first part fails or is
given up ends there.  Acts obey the laws of monads.
-/

namespace Decommission

/-- A performance that other events came before. -/
def Performance.precededBy {σ τ α : Type} (events : List Event) (performed : Performance σ τ α) :
    Performance σ τ α :=
  { performed with events := events ++ performed.events }

/-- A part of an act that ends with no result ends the whole. -/
inductive Ending.Cuts {α β : Type} : Ending α → Ending β → Prop where
  | failed (fault : Fault) : Cuts (.failed fault) (.failed fault)
  | halted (reason : Halt) : Cuts (.halted reason) (.halted reason)

/-- An ending with another result. -/
def Ending.map {α β : Type} (result : α → β) : Ending α → Ending β
  | .done value => .done (result value)
  | .failed fault => .failed fault
  | .halted reason => .halted reason

theorem Ending.map_eq_done {α β : Type} {result : α → β} {ending : Ending α} {value : β} :
    ending.map result = .done value ↔ ∃ first, ending = .done first ∧ result first = value := by
  cases ending <;> simp [Ending.map]

namespace Act

variable {σ τ α β : Type}

section Bind

variable {act : Act σ τ α} {next : α → Act σ τ β} {scene middle : Scene σ τ}
variable {events : List Event}

theorem bind_of_done {value : α} (hact : act scene = ⟨.done value, events, middle⟩) :
    (act >>= next) scene = (next value middle).precededBy events := by
  show andThen act next scene = _
  simp [andThen, hact, Performance.precededBy]

theorem bind_of_failed {fault : Fault} (hact : act scene = ⟨.failed fault, events, middle⟩) :
    (act >>= next) scene = ⟨.failed fault, events, middle⟩ := by
  show andThen act next scene = _
  simp [andThen, hact]

theorem bind_of_halted {reason : Halt} (hact : act scene = ⟨.halted reason, events, middle⟩) :
    (act >>= next) scene = ⟨.halted reason, events, middle⟩ := by
  show andThen act next scene = _
  simp [andThen, hact]

theorem bind_of_cut {ending : Ending α} {other : Ending β}
    (hact : act scene = ⟨ending, events, middle⟩) (hcut : ending.Cuts other) :
    (act >>= next) scene = ⟨other, events, middle⟩ := by
  cases hcut with
  | failed fault => exact bind_of_failed hact
  | halted reason => exact bind_of_halted hact

/-- An act has a result or cuts what it is a part of. -/
theorem done_or_cuts (β : Type) (act : Act σ τ α) (scene : Scene σ τ) :
    (∃ value events last, act scene = ⟨.done value, events, last⟩) ∨
      ∃ ending events last, ∃ other : Ending β,
        act scene = ⟨ending, events, last⟩ ∧ ending.Cuts other := by
  cases act scene with
  | mk ending events last =>
      cases ending with
      | done value => exact Or.inl ⟨value, events, last, rfl⟩
      | failed fault => exact Or.inr ⟨_, events, last, _, rfl, .failed fault⟩
      | halted reason => exact Or.inr ⟨_, events, last, _, rfl, .halted reason⟩

/-- An act of two parts has a result only if both have one. -/
theorem exists_of_bind_done {value : β} (hdone : ((act >>= next) scene).ending = .done value) :
    ∃ first events middle, act scene = ⟨.done first, events, middle⟩ ∧
      (act >>= next) scene = (next first middle).precededBy events := by
  cases hact : act scene with
  | mk ending events middle =>
      cases ending with
      | done first => exact ⟨first, events, middle, rfl, bind_of_done hact⟩
      | failed fault =>
          rw [bind_of_failed hact] at hdone
          cases hdone
      | halted reason =>
          rw [bind_of_halted hact] at hdone
          cases hdone

end Bind

theorem bind_result (act : Act σ τ α) : (act >>= fun value => pure value) = act := by
  funext scene
  cases hact : act scene with
  | mk ending events middle =>
      cases ending with
      | done value =>
          rw [bind_of_done hact]
          simp [Performance.precededBy, pure, done]
      | failed fault => exact bind_of_failed hact
      | halted reason => exact bind_of_halted hact

/-- What is made of the result of an act changes nothing but the result. -/
theorem perform_map (act : Act σ τ α) (result : α → β) (scene : Scene σ τ) :
    (act >>= fun value => pure (result value)) scene =
      ⟨(act scene).ending.map result, (act scene).events, (act scene).scene⟩ := by
  cases hact : act scene with
  | mk ending events last =>
      cases ending with
      | done value =>
          rw [bind_of_done hact]
          simp [Performance.precededBy, pure, done, Ending.map]
      | failed fault => exact bind_of_failed hact
      | halted reason => exact bind_of_halted hact

theorem andThen_assoc {γ : Type} (act : Act σ τ α) (next : α → Act σ τ β)
    (last : β → Act σ τ γ) :
    (act >>= next) >>= last = act >>= fun value => next value >>= last := by
  funext scene
  cases hact : act scene with
  | mk ending events middle =>
      cases ending with
      | done value =>
          rw [bind_of_done hact]
          cases hnext : next value middle with
          | mk ending more final =>
              have hboth : (act >>= next) scene = ⟨ending, events ++ more, final⟩ := by
                rw [bind_of_done hact, hnext]
                rfl
              cases ending with
              | done value =>
                  rw [bind_of_done hboth, bind_of_done hnext]
                  simp [Performance.precededBy, List.append_assoc]
              | failed fault =>
                  rw [bind_of_failed hboth, bind_of_failed hnext]
                  rfl
              | halted reason =>
                  rw [bind_of_halted hboth, bind_of_halted hnext]
                  rfl
      | failed fault => rw [bind_of_failed hact, bind_of_failed (bind_of_failed hact)]
      | halted reason => rw [bind_of_halted hact, bind_of_halted (bind_of_halted hact)]

instance : LawfulMonad (Act σ τ) :=
  LawfulMonad.mk' _ bind_result (fun _ _ => rfl) andThen_assoc

/-! ## Parts of a run -/

section Parts

variable (manager : Manager σ) (clock : Clock τ) (rounds : Nat) (config : Config)

/-- The first message of a run. -/
def opening (config : Config) : String :=
  if config.dryRun then "[DRY RUN] Preinstall started" else "Preinstall started"

/-- The first part of a run. -/
def stopping : Act σ τ (List (String × StopReport)) := do
  enter clock .stoppingServices
  say clock (opening config)
  stopAll manager clock config.stopPolicy rounds config.services

/-- The second part of a run. -/
def cleaning : Act σ τ (List CleanupOutcome) := do
  enter clock .cleaningArtifacts
  cleanupAll clock config.dryRun config.targets

/-- The last part of a run. -/
def finishing : Act σ τ Unit := do
  enter clock .done
  say clock "Preinstall Completed Successfully"

theorem execute_eq : execute manager clock rounds config =
    (do
      let stops ← stopping manager clock rounds config
      let outcomes ← cleaning clock config
      finishing clock
      return .of stops (config.targets.zip outcomes) : Act σ τ RunReport) := by
  simp only [execute, stopping, cleaning, finishing, bind_assoc]
  rfl

/-- How far a run has come that ends so. -/
def settle (ending : Ending α) (progress : Progress) : Progress :=
  match ending with
  | .failed _ => progress.abort
  | _ => progress

variable {manager clock rounds config}

theorem run_of_execute {scene last : Scene σ τ} {ending : Ending RunReport} {events : List Event}
    (hexecute : execute manager clock rounds config scene = ⟨ending, events, last⟩) :
    run manager clock rounds config scene =
      ⟨ending, events, { last with progress := settle ending last.progress }⟩ := by
  rw [run, hexecute]
  cases ending <;> rfl

end Parts

end Act

end Decommission
