import Decommission.Proofs.Log.Line
import Decommission.Proofs.Run.Law
import Mathlib.Data.List.Forall2

/-!
# What acts show

Which events an act can show, and how it can end after them, is said without its scene.  Only the
entry point of the run log matters, and how far the run has come; neither stopping nor cleaning up
changes that.  An act of several parts is followed from part to part.
-/

namespace Decommission

/-- The run log of the scene has the entry point of `log`, and the run has come so far. -/
structure Scene.IsIn {σ τ : Type} (scene : Scene σ τ) (log : RunLog) (progress : Progress) :
    Prop where
  entryPoint : scene.log.entryPoint = log.entryPoint
  progress : scene.progress = progress

theorem RunLog.fatal_congr {first second : RunLog}
    (hentry : first.entryPoint = second.entryPoint) : first.fatal = second.fatal := by
  funext caller fault
  rw [RunLog.fatal, RunLog.fatal, hentry]

/-- The events and the ending of acts of one shape for some items in turn. -/
inductive InTurn {ι α β : Type} (shape : ι → List Event → Ending α → Prop) (result : ι → α → β) :
    List ι → List Event → Ending (List β) → Prop where
  | nil : InTurn shape result [] [] (.done [])
  | done {item rest value values events more} (hitem : shape item events (.done value))
      (hrest : InTurn shape result rest more (.done values)) :
      InTurn shape result (item :: rest) (events ++ more) (.done (result item value :: values))
  /-- The act for one item has no result, and the other items are not tried. -/
  | cut {item rest events ending other} (hitem : shape item events ending)
      (hcut : ending.Cuts other) : InTurn shape result (item :: rest) events other
  /-- The act for one item has a result, and one of the acts after it has none. -/
  | later {item rest value events more ending other} (hitem : shape item events (.done value))
      (hrest : InTurn shape result rest more ending) (hcut : ending.Cuts other) :
      InTurn shape result (item :: rest) (events ++ more) other

namespace InTurn

variable {ι α β : Type} {shape : ι → List Event → Ending α → Prop} {result : ι → α → β}
variable {items : List ι} {events : List Event} {ending : Ending (List β)}

/-- What holds of the events of each act, and of two stretches of events together if it holds of
both, holds of all events. -/
theorem property_events {property : List Event → Prop}
    (hturn : InTurn shape result items events ending) (hnil : property [])
    (happend : ∀ events more, property events → property more → property (events ++ more))
    (hshape : ∀ item ∈ items, ∀ events ending, shape item events ending → property events) :
    property events := by
  induction hturn with
  | nil => exact hnil
  | done hitem hrest ih | later hitem hrest hcut ih =>
      have hfirst := hshape _ (by simp) _ _ hitem
      exact happend _ _ hfirst (ih fun item hmem => hshape item (by simp [hmem]))
  | cut hitem hcut => exact hshape _ (by simp) _ _ hitem

theorem forall_events {property : Event → Prop} (hturn : InTurn shape result items events ending)
    (hshape : ∀ item ∈ items, ∀ events ending, shape item events ending →
      ∀ event ∈ events, property event) : ∀ event ∈ events, property event := by
  have happend : ∀ events more : List Event, (∀ event ∈ events, property event) →
      (∀ event ∈ more, property event) → ∀ event ∈ events ++ more, property event := by
    intro events more hevents hmore
    exact List.forall_mem_append.mpr ⟨hevents, hmore⟩
  exact hturn.property_events (by simp) happend hshape

/-- When every act has a result, the events fall into one segment for each item. -/
theorem segments {values : List β} (hturn : InTurn shape result items events (.done values)) :
    ∃ segments : List (List Event), events = segments.flatten ∧
      List.Forall₂ (fun item segment => ∃ value, shape item segment (.done value))
        items segments := by
  generalize hending : Ending.done values = ending at hturn
  induction hturn generalizing values with
  | nil => exact ⟨[], rfl, .nil⟩
  | @done item rest value values events more hitem hrest ih =>
      obtain ⟨segments, rfl, hsegments⟩ := ih rfl
      exact ⟨events :: segments, rfl, .cons ⟨value, hitem⟩ hsegments⟩
  | cut hitem hcut =>
      subst hending
      cases hcut
  | later hitem hrest hcut =>
      subst hending
      cases hcut

/-- When no act can end without a result, all acts together have one. -/
theorem exists_done (hturn : InTurn shape result items events ending)
    (hshape : ∀ item events ending, shape item events ending → ∃ value, ending = .done value) :
    ∃ values, ending = .done values := by
  induction hturn with
  | nil => exact ⟨_, rfl⟩
  | done => exact ⟨_, rfl⟩
  | cut hitem hcut =>
      obtain ⟨value, rfl⟩ := hshape _ _ _ hitem
      cases hcut
  | later hitem hrest hcut ih =>
      obtain ⟨values, rfl⟩ := ih
      cases hcut

/-- When one act fails, the acts before it have results in turn, and the items after it are not
tried. -/
theorem exists_front {fault : Fault} (hturn : InTurn shape result items events (.failed fault)) :
    ∃ front item back earlier values final, items = front ++ item :: back ∧
      events = earlier ++ final ∧ InTurn shape result front earlier (.done values) ∧
        shape item final (.failed fault) := by
  generalize hending : Ending.failed fault = ending at hturn
  induction hturn with
  | nil | done => cases hending
  | @cut item rest events ending other hitem hcut =>
      subst hending
      cases hcut
      exact ⟨[], item, rest, [], [], events, rfl, rfl, .nil, hitem⟩
  | @later item rest value events more ending other hitem hrest hcut ih =>
      subst hending
      cases hcut
      obtain ⟨front, other, back, earlier, values, final, rfl, rfl, hfront, hother⟩ := ih rfl
      exact ⟨item :: front, other, back, events ++ earlier, _, final, rfl,
        (List.append_assoc _ _ _).symm, .done hitem hfront, hother⟩

/-- When one act fails, the events before it fall into one segment for each item before its own. -/
theorem exists_failed {fault : Fault} (hturn : InTurn shape result items events (.failed fault)) :
    ∃ front item back segments final, items = front ++ item :: back ∧
      events = List.flatten segments ++ final ∧
        List.Forall₂ (fun item segment => ∃ value, shape item segment (.done value))
          front segments ∧ shape item final (.failed fault) := by
  obtain ⟨front, item, back, earlier, values, final, hitems, rfl, hfront, hitem⟩ :=
    hturn.exists_front
  obtain ⟨segments, rfl, hsegments⟩ := hfront.segments
  exact ⟨front, item, back, segments, final, hitems, rfl, hsegments, hitem⟩

end InTurn

namespace Act

variable {σ τ α β : Type} {log : RunLog} {progress : Progress}
variable {shape : List Event → Ending α → Prop}

/-- Whatever the act shows has this shape. -/
def Shows (act : Act σ τ α) (log : RunLog) (progress : Progress)
    (shape : List Event → Ending α → Prop) : Prop :=
  ∀ scene, scene.IsIn log progress →
    shape (act scene).events (act scene).ending ∧ (act scene).scene.IsIn log progress

/-- An act has the shape if its first part cannot end otherwise, and if after each result of the
first part the second part completes the shape. -/
theorem Shows.bind {act : Act σ τ α} {next : α → Act σ τ β}
    {first : List Event → Ending α → Prop} {shape : List Event → Ending β → Prop}
    (hact : act.Shows log progress first)
    (hcut : ∀ events ending other, first events ending → ending.Cuts other → shape events other)
    (hnext : ∀ events value, first events (.done value) →
      (next value).Shows log progress fun more ending => shape (events ++ more) ending) :
    (act >>= next).Shows log progress shape := by
  intro scene hscene
  obtain ⟨hfirst, hmiddle⟩ := hact scene hscene
  rcases done_or_cuts β act scene with
    ⟨value, events, middle, hperformed⟩ | ⟨ending, events, last, other, hperformed, hends⟩
  · rw [hperformed] at hfirst hmiddle
    rw [bind_of_done hperformed]
    exact hnext events value hfirst middle hmiddle
  · rw [hperformed] at hfirst hmiddle
    rw [bind_of_cut hperformed hends]
    exact ⟨hcut _ _ _ hfirst hends, hmiddle⟩

theorem Shows.mono {act : Act σ τ α} {other : List Event → Ending α → Prop}
    (hact : act.Shows log progress shape)
    (hshape : ∀ events ending, shape events ending → other events ending) :
    act.Shows log progress other := by
  intro scene hscene
  obtain ⟨hevents, hlast⟩ := hact scene hscene
  exact ⟨hshape _ _ hevents, hlast⟩

/-! ## Single acts -/

theorem shows_done {value : α} (hshape : shape [] (.done value)) :
    (done value : Act σ τ α).Shows log progress shape :=
  fun _ hscene => ⟨hshape, hscene⟩

theorem shows_pure {value : α} (hshape : shape [] (.done value)) :
    (pure value : Act σ τ α).Shows log progress shape :=
  shows_done hshape

theorem shows_halt {reason : Halt} (hshape : shape [] (.halted reason)) :
    (halt reason : Act σ τ α).Shows log progress shape :=
  fun _ hscene => ⟨hshape, hscene⟩

/-- One line of the log is shown. -/
theorem shows_write (clock : Clock τ) (message : String) (event : Stamp → String → Event) :
    (write clock message event : Act σ τ Unit).Shows log progress fun events ending =>
      (∃ stamp, events = [event stamp message]) ∧ ending = .done () := by
  intro scene hscene
  refine ⟨⟨⟨_, rfl⟩, rfl⟩, ?_, hscene.progress⟩
  show (scene.log.write _ message scene.files).1.entryPoint = log.entryPoint
  rw [RunLog.entryPoint_write]
  exact hscene.entryPoint

theorem shows_trap {clock : Clock τ} {caller : Origin} {fault : Fault}
    (hshape : ∀ stamp, shape [.trapped stamp (log.fatal caller fault)] (.failed fault)) :
    (trap clock caller fault : Act σ τ α).Shows log progress shape := by
  intro scene hscene
  have hmessage := congrFun (congrFun (RunLog.fatal_congr hscene.entryPoint) caller) fault
  obtain ⟨-, hlast⟩ := shows_write clock (scene.log.fatal caller fault) .trapped scene hscene
  refine ⟨?_, hlast⟩
  rw [← hmessage] at hshape
  exact hshape _

/-! ## First acts -/

section First

variable {shape : List Event → Ending β → Prop}

theorem shows_say_bind {clock : Clock τ} {message : String} {next : Unit → Act σ τ β}
    (hnext : ∀ stamp, (next ()).Shows log progress fun more ending =>
      shape (.said stamp message :: more) ending) :
    (say clock message >>= next).Shows log progress shape := by
  refine Shows.bind (shows_write clock message .said) ?_ ?_
  · rintro events ending other ⟨-, rfl⟩ hcut
    cases hcut
  · rintro events value ⟨⟨stamp, rfl⟩, -⟩
    exact hnext stamp

theorem shows_trap_bind {clock : Clock τ} {caller : Origin} {fault : Fault}
    {next : α → Act σ τ β}
    (hshape : ∀ stamp, shape [.trapped stamp (log.fatal caller fault)] (.failed fault)) :
    (trap clock caller fault >>= next).Shows log progress shape :=
  shows_trap hshape

/-- What comes first shows one event and has a result. -/
theorem shows_once_bind {act : Act σ τ α} {event : α → Event} {next : α → Act σ τ β}
    (hact : ∀ scene, ∃ value last, act scene = ⟨.done value, [event value], last⟩ ∧
      (∀ {log progress}, scene.IsIn log progress → last.IsIn log progress))
    (hnext : ∀ value, (next value).Shows log progress fun more ending =>
      shape (event value :: more) ending) :
    (act >>= next).Shows log progress shape := by
  intro scene hscene
  obtain ⟨value, last, hperformed, hlast⟩ := hact scene
  rw [bind_of_done hperformed]
  exact hnext value last (hlast hscene)

theorem shows_ask_bind {question : FileSystem → σ → Except Fault α × σ}
    {event : Except Fault α → Event} {next : Except Fault α → Act σ τ β}
    (hnext : ∀ answer, (next answer).Shows log progress fun more ending =>
      shape (event answer :: more) ending) :
    (ask question event >>= next).Shows log progress shape :=
  shows_once_bind (fun _ => ⟨_, _, rfl, fun hscene => ⟨hscene.entryPoint, hscene.progress⟩⟩) hnext

theorem shows_look_bind {view : FileSystem → α} {event : α → Event} {next : α → Act σ τ β}
    (hnext : ∀ value, (next value).Shows log progress fun more ending =>
      shape (event value :: more) ending) :
    (look view event >>= next).Shows log progress shape :=
  shows_once_bind (fun _ => ⟨_, _, rfl, fun hscene => hscene⟩) hnext

theorem shows_change_bind {step : FileSystem → α × FileSystem} {event : α → Event}
    {next : α → Act σ τ β}
    (hnext : ∀ value, (next value).Shows log progress fun more ending =>
      shape (event value :: more) ending) :
    (change step event >>= next).Shows log progress shape :=
  shows_once_bind (fun _ => ⟨_, _, rfl, fun hscene => ⟨hscene.entryPoint, hscene.progress⟩⟩) hnext

theorem shows_accept_bind {clock : Clock τ} {caller : Origin} {answer : Except Fault α}
    {next : α → Act σ τ β}
    (hok : ∀ value, answer = .ok value → (next value).Shows log progress shape)
    (herror : ∀ fault stamp, answer = .error fault →
      shape [.trapped stamp (log.fatal caller fault)] (.failed fault)) :
    (accept clock caller answer >>= next).Shows log progress shape := by
  cases answer with
  | ok value => exact hok value rfl
  | error fault => exact shows_trap_bind fun stamp => herror fault stamp rfl

theorem shows_now_bind {clock : Clock τ} {next : Nat → Act σ τ β}
    (hnext : ∀ time, (next time).Shows log progress shape) :
    (now clock >>= next).Shows log progress shape := by
  intro scene hscene
  have hperformed : now clock scene = ⟨.done (clock.now scene.clock).1, [],
      { scene with clock := (clock.now scene.clock).2 }⟩ := rfl
  rw [bind_of_done hperformed]
  exact hnext _ _ ⟨hscene.entryPoint, hscene.progress⟩

theorem shows_pause_bind {clock : Clock τ} {duration : Nat} {next : Unit → Act σ τ β}
    (hsignal : ∀ signal, shape [.paused duration] (.halted (.signal signal)))
    (hnext : (next ()).Shows log progress fun more ending =>
      shape (.paused duration :: more) ending) :
    (pause clock duration >>= next).Shows log progress shape := by
  intro scene hscene
  have hlast : ({ scene with clock := (clock.pause duration scene.clock).2 } :
      Scene σ τ).IsIn log progress := ⟨hscene.entryPoint, hscene.progress⟩
  cases hpause : (clock.pause duration scene.clock).1 with
  | none =>
      have hperformed : pause clock duration scene = ⟨.done (), [.paused duration],
          { scene with clock := (clock.pause duration scene.clock).2 }⟩ := by
        unfold pause
        simp only [hpause]
      rw [bind_of_done hperformed]
      exact hnext _ hlast
  | some signal =>
      have hperformed : pause clock duration scene = ⟨.halted (.signal signal),
          [.paused duration], { scene with clock := (clock.pause duration scene.clock).2 }⟩ := by
        unfold pause
        simp only [hpause]
      rw [bind_of_halted hperformed]
      exact ⟨hsignal signal, hlast⟩

end First

/-! ## Acts in turn -/

theorem shows_inTurn_cons {ι : Type} {shape : ι → List Event → Ending α → Prop}
    {result : ι → α → β} {item : ι} {rest : List ι} {act : Act σ τ α}
    {others : Act σ τ (List β)} (hact : act.Shows log progress (shape item))
    (hothers : others.Shows log progress (InTurn shape result rest)) :
    (act >>= fun value => others >>= fun values => pure (result item value :: values)).Shows
      log progress (InTurn shape result (item :: rest)) := by
  refine Shows.bind hact (fun _ _ _ hitem hcut => .cut hitem hcut) fun events value hitem => ?_
  refine Shows.bind hothers (fun _ _ _ hrest hcut => .later hitem hrest hcut) ?_
  intro more values hrest
  apply shows_pure
  rw [List.append_nil]
  exact .done hitem hrest

end Act

end Decommission
