import Decommission.Proofs.Run.Law
import Decommission.Proofs.Run.Target

/-!
# From moment to moment

All that a run does to the run log and to the files is done by its lines and its removals.  So its
events tell what log and files are like at every moment of the run.
-/

namespace Decommission

/-- The run log and the files as they are at some moment. -/
structure Moment where
  log : RunLog
  files : FileSystem

def Scene.moment {σ τ : Type} (scene : Scene σ τ) : Moment := ⟨scene.log, scene.files⟩

/-- The moment after a line. -/
def Moment.written (moment : Moment) (stamp : Stamp) (message : String) : Moment :=
  let (log, files) := moment.log.write stamp message moment.files
  ⟨log, files⟩

namespace Event

/-- The moment after an event. -/
def after (event : Event) (moment : Moment) : Moment :=
  match event with
  | .said stamp message | .trapped stamp message => moment.written stamp message
  | .removed target _ => { moment with files := (target.remove moment.files).2 }
  | _ => moment

/-- What the event says of a target is the case. -/
def IsTrue (event : Event) (moment : Moment) : Prop :=
  match event with
  | .tested target present => present = target.isPresent moment.files
  | .removed target answer => answer = (target.remove moment.files).1
  | _ => True

end Event

namespace Moment

/-- The moment after some events. -/
def replay (moment : Moment) (events : List Event) : Moment :=
  events.foldl (fun moment event => event.after moment) moment

/-- Every event is true at its moment. -/
def Confirms (moment : Moment) : List Event → Prop
  | [] => True
  | event :: rest => event.IsTrue moment ∧ (event.after moment).Confirms rest

variable {moment : Moment} {events more : List Event}

theorem replay_cons (moment : Moment) (event : Event) (events : List Event) :
    moment.replay (event :: events) = (event.after moment).replay events := rfl

theorem replay_append (moment : Moment) (events more : List Event) :
    moment.replay (events ++ more) = (moment.replay events).replay more :=
  List.foldl_append

theorem confirms_append :
    moment.Confirms (events ++ more) ↔
      moment.Confirms events ∧ (moment.replay events).Confirms more := by
  induction events generalizing moment with
  | nil => simp [Confirms, replay]
  | cons event rest ih =>
      rw [List.cons_append, Confirms, Confirms, ih, replay_cons, and_assoc]

/-- What is the case at first and is not the case in the end has been changed by one event. -/
theorem exists_turn (property : Moment → Prop) (hfirst : property moment)
    (hlast : ¬property (moment.replay events)) :
    ∃ earlier event later, events = earlier ++ event :: later ∧
      property (moment.replay earlier) ∧ ¬property (event.after (moment.replay earlier)) := by
  induction events generalizing moment with
  | nil => exact absurd hfirst hlast
  | cons event rest ih =>
      by_cases hnext : property (event.after moment)
      · obtain ⟨earlier, turn, later, rfl, hbefore, hafter⟩ := ih hnext hlast
        exact ⟨event :: earlier, turn, later, rfl, hbefore, hafter⟩
      · exact ⟨[], event, rest, rfl, hfirst, hnext⟩

/-! ## What lasts -/

/-- What every moment has in common with those before it.  A log that is open stays so, and its file
is the only one that changes: it grows. -/
structure Keeps (before after : Moment) : Prop where
  here : after.files.here = before.files.here
  root : after.files.root = before.files.root
  path : after.log.path = before.log.path
  handle : ∀ object, before.log.handle = some object → after.log.handle = some object
  objects : ∀ object, after.files.object? object = before.files.object? object ∨
    after.log.handle = some object ∧ ∀ file, before.files.object? object = some file →
      ∃ bytes, after.files.object? object = some { file with content := file.content ++ bytes }

namespace Keeps

variable {before middle after : Moment}

theorem refl (moment : Moment) : moment.Keeps moment :=
  ⟨rfl, rfl, rfl, fun _ hhandle => hhandle, fun _ => Or.inl rfl⟩

theorem trans (hfirst : before.Keeps middle) (hsecond : middle.Keeps after) :
    before.Keeps after where
  here := hsecond.here.trans hfirst.here
  root := hsecond.root.trans hfirst.root
  path := hsecond.path.trans hfirst.path
  handle object hhandle := hsecond.handle object (hfirst.handle object hhandle)
  objects object := by
    rcases hfirst.objects object with hsame | ⟨hopen, hgrown⟩
    · have hafter := hsecond.objects object
      rwa [hsame] at hafter
    · refine Or.inr ⟨hsecond.handle object hopen, fun file hfile => ?_⟩
      obtain ⟨bytes, hmiddle⟩ := hgrown file hfile
      rcases hsecond.objects object with hsame | ⟨-, hmore⟩
      · exact ⟨bytes, hsame.trans hmiddle⟩
      · obtain ⟨others, hafter⟩ := hmore _ hmiddle
        refine ⟨bytes ++ others, ?_⟩
        rw [hafter, List.append_assoc]

end Keeps

/-- A line is lost, or goes to the file that the log is attached to. -/
theorem written_cases (moment : Moment) (stamp : Stamp) (message : String) :
    moment.written stamp message = moment ∨
      ∃ object opened bytes, moment.log.attach moment.files = .ok (object, opened) ∧
        moment.written stamp message =
          ⟨{ moment.log with handle := some object }, opened.append object bytes⟩ := by
  unfold written
  cases hattach : moment.log.attach moment.files with
  | error error =>
      rw [RunLog.write_of_refused hattach]
      exact Or.inl rfl
  | ok attached =>
      obtain ⟨object, opened⟩ := attached
      rw [RunLog.write_of_attach hattach]
      exact Or.inr ⟨object, opened, _, rfl, rfl⟩

theorem keeps_of_attach {object : ObjectId} {opened : FileSystem}
    (hattach : moment.log.attach moment.files = .ok (object, opened)) :
    moment.Keeps ⟨{ moment.log with handle := some object }, opened⟩ := by
  rcases RunLog.attach_eq_ok hattach with ⟨hhandle, rfl⟩ | ⟨hhandle, hopen⟩
  · refine ⟨rfl, rfl, rfl, fun other hother => ?_, fun _ => Or.inl rfl⟩
    rwa [hhandle] at hother
  · refine ⟨(FileSystem.isPart_openAppend hopen).here.symm, FileSystem.root_openAppend hopen, rfl,
      fun other hother => ?_, fun other => ?_⟩
    · rw [hhandle] at hother
      cases hother
    · rcases FileSystem.object?_openAppend hopen other with hsame | ⟨rfl, hnone⟩
      · exact Or.inl hsame
      · refine Or.inr ⟨rfl, fun file hfile => ?_⟩
        rw [hnone] at hfile
        cases hfile

theorem keeps_append {object : ObjectId} (hhandle : moment.log.handle = some object)
    (bytes : Bytes) : moment.Keeps ⟨moment.log, moment.files.append object bytes⟩ := by
  refine ⟨rfl, rfl, rfl, fun _ hother => hother, fun other => ?_⟩
  by_cases hother : other = object
  · subst hother
    refine Or.inr ⟨hhandle, fun file hfile => ⟨bytes, ?_⟩⟩
    rw [FileSystem.object?_append_self, hfile]
    rfl
  · exact Or.inl (FileSystem.object?_append_of_ne hother bytes)

theorem keeps_written (moment : Moment) (stamp : Stamp) (message : String) :
    moment.Keeps (moment.written stamp message) := by
  rcases moment.written_cases stamp message with hsame | ⟨object, opened, bytes, hattach, hwritten⟩
  · rw [hsame]
    exact Keeps.refl moment
  · rw [hwritten]
    have hattached := keeps_of_attach hattach
    have happended : Keeps ⟨{ moment.log with handle := some object }, opened⟩
        ⟨{ moment.log with handle := some object }, opened.append object bytes⟩ :=
      keeps_append rfl bytes
    exact hattached.trans happended

theorem keeps_after (event : Event) (moment : Moment) : moment.Keeps (event.after moment) := by
  cases event with
  | said stamp message | trapped stamp message => exact keeps_written moment stamp message
  | removed target answer =>
      have hloses := target.remove_loses moment.files
      refine ⟨hloses.here, hloses.root, rfl, fun _ hhandle => hhandle, fun object => Or.inl ?_⟩
      show (target.remove moment.files).2.objects[object]? = moment.files.objects[object]?
      rw [hloses.objects]
  | listed | disabled | bootedOut | paused | tested => exact Keeps.refl moment

theorem keeps_replay (moment : Moment) (events : List Event) :
    moment.Keeps (moment.replay events) := by
  induction events generalizing moment with
  | nil => exact Keeps.refl moment
  | cons event rest ih => exact (keeps_after event moment).trans (ih (event.after moment))

end Moment

/-! ## Runs -/

namespace Act

variable {σ τ : Type}

/-- The events account for what has become of the log and the files, and they are true. -/
def Accounts (first : Scene σ τ) (events : List Event) (last : Scene σ τ) : Prop :=
  last.moment = first.moment.replay events ∧ first.moment.Confirms events

theorem composes_accounts : Composes (σ := σ) (τ := τ) Accounts where
  nothing _ := ⟨rfl, trivial⟩
  append := by
    rintro first middle last events more ⟨hfirst, hevents⟩ ⟨hmore, htrue⟩
    rw [hfirst] at hmore htrue
    exact ⟨hmore.trans (Moment.replay_append _ _ _).symm,
      Moment.confirms_append.mpr ⟨hevents, htrue⟩⟩

theorem stopLaw_accounts (manager : Manager σ) (clock : Clock τ) :
    StopLaw manager clock Accounts where
  toComposes := composes_accounts
  moved _ hlast := hlast
  said _ _ := ⟨rfl, trivial, trivial⟩
  trapped _ _ := ⟨rfl, trivial, trivial⟩
  told _ := ⟨rfl, trivial⟩
  paused _ _ := ⟨rfl, trivial, trivial⟩
  listed _ _ := ⟨rfl, trivial, trivial⟩
  disabled _ _ := ⟨rfl, trivial, trivial⟩
  bootedOut _ _ := ⟨rfl, trivial, trivial⟩

theorem cleanLaw_accounts (clock : Clock τ) : CleanLaw (σ := σ) clock Accounts where
  toComposes := composes_accounts
  moved _ hlast := hlast
  said _ _ := ⟨rfl, trivial, trivial⟩
  trapped _ _ := ⟨rfl, trivial, trivial⟩
  tested _ _ := ⟨rfl, rfl, trivial⟩
  removed _ _ := ⟨rfl, rfl, trivial⟩

theorem accounts_run (manager : Manager σ) (clock : Clock τ) (rounds : Nat) (config : Config) :
    (run manager clock rounds config).Obeys Accounts :=
  obeys_run (stopLaw_accounts manager clock) (cleanLaw_accounts clock) rounds config

end Act

end Decommission
