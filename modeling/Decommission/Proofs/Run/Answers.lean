import Decommission.Proofs.Run.Moment

/-!
# Answers of the manager

The events of an act account for what becomes of the manager.  Every answer in them is the one that
the manager gives in the state that it is in by then, with the files as they are by then.
-/

namespace Decommission

/-- What a manager answers by: its own state, and the moment. -/
structure Situation (σ : Type) where
  state : σ
  moment : Moment

variable {σ τ : Type}

def Scene.situation (scene : Scene σ τ) : Situation σ := ⟨scene.manager, scene.moment⟩

namespace Situation

variable (manager : Manager σ) (situation : Situation σ)

/-- The state of the manager after an event. -/
def stateAfter (event : Event) : σ :=
  match event with
  | .listed service _ => (manager.isLoaded service situation.moment.files situation.state).2
  | .disabled service _ => (manager.disable service situation.moment.files situation.state).2
  | .bootedOut service _ => (manager.bootOut service situation.moment.files situation.state).2
  | _ => situation.state

def after (event : Event) : Situation σ :=
  ⟨situation.stateAfter manager event, event.after situation.moment⟩

/-- If there is an answer in the event, the manager gives it. -/
def Gives (event : Event) : Prop :=
  match event with
  | .listed service answer =>
      answer = (manager.isLoaded service situation.moment.files situation.state).1
  | .disabled service answer =>
      answer = (manager.disable service situation.moment.files situation.state).1
  | .bootedOut service answer =>
      answer = (manager.bootOut service situation.moment.files situation.state).1
  | _ => True

/-- The situation after some events. -/
def replay (events : List Event) : Situation σ :=
  events.foldl (fun situation event => situation.after manager event) situation

/-- The manager gives every answer in its turn. -/
def Answers : Situation σ → List Event → Prop
  | _, [] => True
  | situation, event :: rest =>
      situation.Gives manager event ∧ Answers (situation.after manager event) rest

variable {manager situation}

theorem replay_cons (event : Event) (events : List Event) :
    situation.replay manager (event :: events) =
      (situation.after manager event).replay manager events := rfl

theorem replay_append (events more : List Event) :
    situation.replay manager (events ++ more) =
      (situation.replay manager events).replay manager more :=
  List.foldl_append

theorem answers_append {events more : List Event} :
    situation.Answers manager (events ++ more) ↔
      situation.Answers manager events ∧
        (situation.replay manager events).Answers manager more := by
  induction events generalizing situation with
  | nil => simp [Answers, replay]
  | cons event rest ih =>
      rw [List.cons_append, Answers, Answers, ih, replay_cons, and_assoc]

end Situation

namespace Act

/-- The events account for what has become of the manager, the log and the files, and the manager
gave the answers in them. -/
def Consults (manager : Manager σ) (first : Scene σ τ) (events : List Event)
    (last : Scene σ τ) : Prop :=
  last.situation = first.situation.replay manager events ∧
    first.situation.Answers manager events

theorem composes_consults (manager : Manager σ) :
    Composes (Consults (σ := σ) (τ := τ) manager) where
  nothing _ := ⟨rfl, trivial⟩
  append := by
    rintro first middle last events more ⟨hfirst, hevents⟩ ⟨hmore, hanswers⟩
    rw [hfirst] at hmore hanswers
    exact ⟨hmore.trans (Situation.replay_append _ _).symm,
      Situation.answers_append.mpr ⟨hevents, hanswers⟩⟩

theorem stopLaw_consults (manager : Manager σ) (clock : Clock τ) :
    StopLaw manager clock (Consults manager) where
  toComposes := composes_consults manager
  moved _ hlast := hlast
  said _ _ := ⟨rfl, trivial, trivial⟩
  trapped _ _ := ⟨rfl, trivial, trivial⟩
  told _ := ⟨rfl, trivial⟩
  paused _ _ := ⟨rfl, trivial, trivial⟩
  listed _ _ := ⟨rfl, rfl, trivial⟩
  disabled _ _ := ⟨rfl, rfl, trivial⟩
  bootedOut _ _ := ⟨rfl, rfl, trivial⟩

theorem cleanLaw_consults (manager : Manager σ) (clock : Clock τ) :
    CleanLaw clock (Consults manager) where
  toComposes := composes_consults manager
  moved _ hlast := hlast
  said _ _ := ⟨rfl, trivial, trivial⟩
  trapped _ _ := ⟨rfl, trivial, trivial⟩
  tested _ _ := ⟨rfl, trivial, trivial⟩
  removed _ _ := ⟨rfl, trivial, trivial⟩

theorem consults_run (manager : Manager σ) (clock : Clock τ) (rounds : Nat) (config : Config) :
    (run manager clock rounds config).Obeys (Consults manager) :=
  obeys_run (stopLaw_consults manager clock) (cleanLaw_consults manager clock) rounds config

theorem consults_stop (manager : Manager σ) (clock : Clock τ) (policy : StopPolicy) (rounds : Nat)
    (service : Service) : (stop manager clock policy rounds service).Obeys (Consults manager) :=
  obeys_stop (stopLaw_consults manager clock) policy rounds service

end Act

end Decommission
