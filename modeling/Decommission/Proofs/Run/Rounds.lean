import Decommission.Proofs.Run.Law
import Decommission.Run.Stop

/-!
# Round by round

The first answer to a query says how stopping a service goes on: it ends there, or one round of
requests and a pause come before the next query.  With more rounds to go an act does the same, as
long as it does not use its rounds up.
-/

namespace Decommission

/-- The scene once the manager was asked whether the service is loaded. -/
def Scene.asked {σ τ : Type} (scene : Scene σ τ) (manager : Manager σ) (service : Service) :
    Scene σ τ :=
  { scene with manager := (manager.isLoaded service scene.files scene.manager).2 }

namespace Act

variable {σ τ α β : Type}

/-! ## Acts given up -/

/-- The second act does what the first one does, except where the first one is given up for one of
these reasons. -/
def Extends (excused : Halt → Prop) (act more : Act σ τ α) : Prop :=
  ∀ scene, (∀ reason, (act scene).ending = .halted reason → ¬excused reason) →
    more scene = act scene

variable {excused : Halt → Prop}

theorem extends_refl (act : Act σ τ α) : act.Extends excused act := fun _ _ => rfl

theorem Extends.bind {act act' : Act σ τ α} {next next' : α → Act σ τ β}
    (hact : act.Extends excused act')
    (hnext : ∀ value, (next value).Extends excused (next' value)) :
    (act >>= next).Extends excused (act' >>= next') := by
  intro scene hending
  cases hfirst : act scene with
  | mk ending events middle =>
      cases ending with
      | done value =>
          have hsame : act' scene = _ := hact scene (by simp [hfirst])
          rw [bind_of_done hfirst] at hending ⊢
          rw [bind_of_done (hsame.trans hfirst), hnext value middle hending]
      | failed fault =>
          have hsame : act' scene = _ := hact scene (by simp [hfirst])
          rw [bind_of_failed hfirst, bind_of_failed (hsame.trans hfirst)]
      | halted reason =>
          have hhalted : ∀ other, (act scene).ending = .halted other → ¬excused other := by
            rw [bind_of_halted hfirst] at hending
            rw [hfirst]
            rintro other ⟨⟩
            exact hending reason rfl
          rw [bind_of_halted hfirst, bind_of_halted ((hact scene hhalted).trans hfirst)]

section More

variable (manager : Manager σ) (clock : Clock τ) (policy : StopPolicy) (service : Service)

/-- More rounds make no difference to an act that does not use its rounds up. -/
theorem extends_stopRounds (started : Nat) {rounds more : Nat} (hmore : rounds ≤ more)
    (report : StopReport) (lastCommand : String) :
    (stopRounds manager clock policy service started rounds report lastCommand).Extends
      (· = .exhausted)
      (stopRounds manager clock policy service started more report lastCommand) := by
  induction rounds generalizing more report lastCommand with
  | zero => exact fun _ hending => absurd rfl (hending .exhausted rfl)
  | succ rounds ih =>
      obtain ⟨more, rfl⟩ := Nat.exists_eq_add_one_of_ne_zero (Nat.ne_zero_of_lt hmore)
      have hrest (report : StopReport) (lastCommand : String) :=
        ih (Nat.le_of_succ_le_succ hmore) report lastCommand
      refine Extends.bind (extends_refl _) fun loaded => ?_
      split
      · split
        · exact extends_refl _
        · refine Extends.bind (extends_refl _) fun _ => ?_
          refine Extends.bind (extends_refl _) fun _ => ?_
          refine Extends.bind (extends_refl _) fun requested => ?_
          refine Extends.bind (extends_refl _) fun _ => ?_
          exact Extends.bind (extends_refl _) fun _ => hrest _ _
      · exact extends_refl _

theorem extends_stop {rounds more : Nat} (hmore : rounds ≤ more) :
    (stop manager clock policy rounds service).Extends (· = .exhausted)
      (stop manager clock policy more service) :=
  Extends.bind (extends_refl _) fun started =>
    extends_stopRounds manager clock policy service started hmore {} ""

end More

/-! ## By the first answer -/

section FirstAnswer

variable {manager : Manager σ} {clock : Clock τ} {policy : StopPolicy} {service : Service}
variable {started rounds : Nat} {report : StopReport} {lastCommand : String} {scene : Scene σ τ}

theorem say_eq (clock : Clock τ) (message : String) (scene : Scene σ τ) :
    say clock message scene = ⟨.done (), [.said (clock.stamp scene.clock).1 message],
      (say clock message scene).scene⟩ := rfl

theorem list_of_answer {answer : Except Fault Bool}
    (hanswer : (manager.isLoaded service scene.files scene.manager).1 = answer) :
    list manager clock service scene =
      (accept clock .stopping answer (scene.asked manager service)).precededBy
        [.listed service answer] := by
  subst hanswer
  exact bind_of_done rfl

/-- A query that fails ends the rounds. -/
theorem stopRounds_of_error {fault : Fault}
    (hanswer : (manager.isLoaded service scene.files scene.manager).1 = .error fault) :
    stopRounds manager clock policy service started (rounds + 1) report lastCommand scene =
      (trap clock .stopping fault (scene.asked manager service)).precededBy
        [.listed service (.error fault)] :=
  bind_of_failed (list_of_answer hanswer)

theorem stopRounds_of_absent
    (hanswer : (manager.isLoaded service scene.files scene.manager).1 = .ok false) :
    stopRounds manager clock policy service started (rounds + 1) report lastCommand scene =
      ⟨.done report, [.listed service (.ok false)], scene.asked manager service⟩ :=
  bind_of_done (list_of_answer hanswer)

theorem stopRounds_of_loaded (hdry : policy.dryRun = false)
    (hanswer : (manager.isLoaded service scene.files scene.manager).1 = .ok true) :
    stopRounds manager clock policy service started (rounds + 1) report lastCommand scene =
      Performance.precededBy [.listed service (.ok true)]
        ((checkTimeout clock policy service started { report with wasRunning := true }
            lastCommand >>= fun _ =>
          say clock ("Stopping " ++ service.name ++ "...") >>= fun _ =>
          request manager clock service report.benignRaces >>= fun requested =>
          pause clock policy.pollInterval >>= fun _ =>
          say clock "Stopped Successfully" >>= fun _ =>
          stopRounds manager clock policy service started rounds
            { wasRunning := true, passes := report.passes + 1, benignRaces := requested.1 }
            requested.2) (scene.asked manager service)) := by
  have hlist : list manager clock service scene =
      ⟨.done true, [.listed service (.ok true)], scene.asked manager service⟩ :=
    list_of_answer hanswer
  rw [stopRounds, bind_of_done hlist, if_pos rfl]
  simp only [hdry]
  rfl

/-- With a time limit a look at the clock decides whether the service is given up. -/
theorem checkTimeout_bind {limit : Nat} (hlimit : policy.timeout = some limit)
    (next : Unit → Act σ τ α) :
    (checkTimeout clock policy service started report lastCommand >>= next) scene =
      let waited := (clock.now scene.clock).1 - started
      let looked := { scene with clock := (clock.now scene.clock).2 }
      if 0 < report.passes ∧ limit ≤ waited then
        trap clock .stopping (.stopTimeout service.name waited lastCommand .stopping) looked
      else next () looked := by
  have hnow : now clock scene = ⟨.done (clock.now scene.clock).1, [],
      { scene with clock := (clock.now scene.clock).2 }⟩ := rfl
  simp only [checkTimeout, hlimit, bind_assoc]
  rw [bind_of_done hnow]
  split <;> rfl

end FirstAnswer

end Act

end Decommission
