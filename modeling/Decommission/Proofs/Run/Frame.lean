import Decommission.FileSystem.Arrange
import Decommission.Proofs.Run.Removals
import Decommission.Rehearsal.Script
import Decommission.Rehearsal.Time

/-!
# What a run leaves alone

Of all the files a run changes the one that is its log, and it takes away entries that removals of
its targets may take.  Everything else is in the end as it was in the beginning.
-/

namespace Decommission

open FileSystem

namespace Moment

variable {moment : Moment}

/-- The next line opens the log, and its file is this one. -/
structure Opens (moment : Moment) (object : ObjectId) : Prop where
  unopened : moment.log.handle = none
  opening : ∃ opened, moment.files.openAppend moment.log.path = .ok (object, opened)

/-! ## One event -/

/-- An event adds no entry but that of the log. -/
theorem entry?_of_after (event : Event) {place : Place} {entry : Entry}
    (hentry : entry? (event.after moment).files place = some entry) :
    moment.files.entry? place = some entry ∨
      ∃ object, moment.Opens object ∧ moment.files.entry? place = none ∧
        entry = .file object ∧ (event.after moment).log.handle = some object := by
  have hline : ∀ stamp message, entry? (moment.written stamp message).files place = some entry →
      moment.files.entry? place = some entry ∨
        ∃ object, moment.Opens object ∧ moment.files.entry? place = none ∧
          entry = .file object ∧ (moment.written stamp message).log.handle = some object := by
    intro stamp message hentry
    rcases moment.written_cases stamp message with
      hsame | ⟨object, opened, bytes, hattach, hwritten⟩
    · rw [hsame] at hentry
      exact Or.inl hentry
    rw [hwritten] at hentry ⊢
    rcases RunLog.attach_eq_ok hattach with ⟨-, rfl⟩ | ⟨hhandle, hopen⟩
    · exact Or.inl hentry
    rcases openAppend_eq_ok hopen with ⟨-, -, rfl⟩ | ⟨parent, name, hresolve, -, rfl⟩
    · exact Or.inl hentry
    obtain ⟨-, hnone⟩ := holds_of_resolve hresolve
    by_cases hplace : place = parent ++ [name]
    · subst hplace
      rw [entry?_append, entry?_put_self _ (by simp)] at hentry
      cases hentry
      exact Or.inr ⟨object, ⟨hhandle, _, hopen⟩, hnone, rfl, rfl⟩
    · rw [entry?_append, entry?_put_of_ne _ hplace] at hentry
      exact Or.inl hentry
  cases event with
  | said stamp message | trapped stamp message => exact hline stamp message hentry
  | removed target answer =>
      exact Or.inl ((target.remove_loses moment.files).isPart.entry _ _ hentry)
  | listed | disabled | bootedOut | paused | tested => exact Or.inl hentry

/-- An event takes no entry away but the removal of a target. -/
theorem entry?_after (event : Event) {place : Place} {entry : Entry}
    (hentry : moment.files.entry? place = some entry) :
    entry? (event.after moment).files place = some entry ∨
      ∃ target answer, event = .removed target answer ∧
        entry? (target.remove moment.files).2 place = none ∧
        target.MayTake moment.files place := by
  have hline : ∀ stamp message, entry? (moment.written stamp message).files place = some entry := by
    intro stamp message
    rcases moment.written_cases stamp message with
      hsame | ⟨object, opened, bytes, hattach, hwritten⟩
    · rw [hsame]
      exact hentry
    · rw [hwritten]
      exact (RunLog.isPart_attach hattach).entry _ _ hentry
  cases event with
  | said stamp message | trapped stamp message => exact Or.inl (hline stamp message)
  | removed target answer =>
      rcases (target.remove_loses moment.files).entries place with hsame | ⟨hgone, htake⟩
      · exact Or.inl (hsame.trans hentry)
      · exact Or.inr ⟨target, answer, rfl, hgone, htake⟩
  | listed | disabled | bootedOut | paused | tested => exact Or.inl hentry

theorem handle_of_after (event : Event) {object : ObjectId}
    (hhandle : (event.after moment).log.handle = some object) :
    moment.log.handle = some object ∨ moment.Opens object := by
  have hline : ∀ stamp message, (moment.written stamp message).log.handle = some object →
      moment.log.handle = some object ∨ moment.Opens object := by
    intro stamp message hhandle
    rcases moment.written_cases stamp message with hsame | ⟨found, opened, bytes, hattach, hwritten⟩
    · rw [hsame] at hhandle
      exact Or.inl hhandle
    · rw [hwritten] at hhandle
      cases hhandle
      rcases RunLog.attach_eq_ok hattach with ⟨hopen, -⟩ | ⟨hunopened, hopen⟩
      · exact Or.inl hopen
      · exact Or.inr ⟨hunopened, opened, hopen⟩
  cases event with
  | said stamp message | trapped stamp message => exact hline stamp message hhandle
  | listed | disabled | bootedOut | paused | tested | removed => exact Or.inl hhandle

/-! ## All events -/

variable {events : List Event} {place : Place} {entry : Entry}

theorem replay_split {earlier later : List Event} {event : Event}
    (hsplit : events = earlier ++ event :: later) :
    moment.replay events = (event.after (moment.replay earlier)).replay later := by
  rw [hsplit, replay_append, replay_cons]

theorem exists_removal (hentry : moment.files.entry? place = some entry)
    (hlost : entry? (moment.replay events).files place ≠ some entry) :
    ∃ earlier target answer later, events = earlier ++ .removed target answer :: later ∧
      entry? (moment.replay earlier).files place = some entry ∧
      entry? (target.remove (moment.replay earlier).files).2 place = none ∧
      target.MayTake (moment.replay earlier).files place := by
  obtain ⟨earlier, event, later, hsplit, hbefore, hafter⟩ :=
    exists_turn (fun moment => moment.files.entry? place = some entry) hentry hlost
  rcases entry?_after event hbefore with hkept | ⟨target, answer, rfl, hgone, htake⟩
  · exact absurd hkept hafter
  · exact ⟨earlier, target, answer, later, hsplit, hbefore, hgone, htake⟩

theorem exists_opening_of_gained (hentry : entry? (moment.replay events).files place = some entry)
    (hnew : moment.files.entry? place ≠ some entry) :
    ∃ earlier event later object, events = earlier ++ event :: later ∧
      (moment.replay earlier).Opens object ∧
      entry? (moment.replay earlier).files place = none ∧
      entry = .file object ∧ (moment.replay events).log.handle = some object := by
  obtain ⟨earlier, event, later, hsplit, hbefore, hafter⟩ :=
    exists_turn (fun moment => moment.files.entry? place ≠ some entry) hnew (not_not_intro hentry)
  rcases entry?_of_after event (not_not.mp hafter) with hsame | ⟨object, hopens, hnone, hfile, hhandle⟩
  · exact absurd hsame hbefore
  · have hlast := (keeps_replay (event.after (moment.replay earlier)) later).handle object hhandle
    rw [← replay_split hsplit] at hlast
    exact ⟨earlier, event, later, object, hsplit, hopens, hnone, hfile, hlast⟩

theorem exists_opening {object : ObjectId}
    (hhandle : (moment.replay events).log.handle = some object) :
    moment.log.handle = some object ∨
      ∃ earlier event later, events = earlier ++ event :: later ∧
        (moment.replay earlier).Opens object := by
  by_cases hfirst : moment.log.handle = some object
  · exact Or.inl hfirst
  · obtain ⟨earlier, event, later, hsplit, hbefore, hafter⟩ :=
      exists_turn (fun moment => moment.log.handle ≠ some object) hfirst (not_not_intro hhandle)
    rcases handle_of_after event (not_not.mp hafter) with hsame | hopens
    · exact absurd hsame hbefore
    · exact Or.inr ⟨earlier, event, later, hsplit, hopens⟩

end Moment

/-! ## Runs -/

/-- The removal of a target after some events, of which the last two are that it was found and that
a line says so. -/
structure Removal (targets : List Target) (start : Moment) (earlier : List Event)
    (target : Target) : Prop where
  configured : target ∈ targets
  found : ∃ front stamp, earlier =
      front ++ [.tested target true, .said stamp ("Removing " ++ target.path.display)] ∧
    target.isPresent (start.replay front).files = true
  loses : (start.replay earlier).files.Loses (target.remove (start.replay earlier).files).2
    (target.Covers (start.replay earlier).files)
  /-- If there is a link, nothing but that link goes. -/
  link : ∀ place object path,
    (start.replay earlier).files.find? false target.path = some (place, .link object path) →
      (target.remove (start.replay earlier).files).2 = (start.replay earlier).files ∨
        (target.remove (start.replay earlier).files).2 = (start.replay earlier).files.drop place
  /-- What a link leads to stays. -/
  linked : ∀ place object path other found,
    (start.replay earlier).files.find? false target.path = some (place, .link object path) →
      (start.replay earlier).files.find? true target.path = some (other, found) →
        entry? (target.remove (start.replay earlier).files).2 other = some found

/-- All the differences that events make to the files. -/
structure Framed (targets : List Target) (start : Moment) (events : List Event)
    (final : Moment) : Prop where
  /-- The events account for everything, and they are true. -/
  accounted : final = start.replay events ∧ start.Confirms events
  here : final.files.here = start.files.here
  root : final.files.root = start.files.root
  /-- An entry that is lost was taken by the removal of a target. -/
  lost : ∀ place entry, start.files.entry? place = some entry →
    final.files.entry? place ≠ some entry →
      ∃ earlier target answer later, events = earlier ++ .removed target answer :: later ∧
        entry? (start.replay earlier).files place = some entry ∧
        entry? (target.remove (start.replay earlier).files).2 place = none ∧
        target.Covers (start.replay earlier).files place
  /-- An entry that is new is the file that was made when the log was opened. -/
  gained : ∀ place entry, final.files.entry? place = some entry →
    start.files.entry? place ≠ some entry →
      ∃ earlier event later object, events = earlier ++ event :: later ∧
        (start.replay earlier).Opens object ∧
        entry? (start.replay earlier).files place = none ∧
        entry = .file object ∧ final.log.handle = some object
  /-- The file of the log has grown, and no other file has changed. -/
  objects : ∀ object, final.files.object? object = start.files.object? object ∨
    final.log.handle = some object ∧ ∀ file, start.files.object? object = some file →
      ∃ bytes, final.files.object? object = some { file with content := file.content ++ bytes }
  /-- The file of the log is the one that was open from the start, or that its path led to when it
  was opened. -/
  opened : ∀ object, final.log.handle = some object → start.log.handle = some object ∨
    ∃ earlier event later, events = earlier ++ event :: later ∧
      (start.replay earlier).Opens object
  removals : ∀ earlier target answer later, events = earlier ++ .removed target answer :: later →
    Removal targets start earlier target
  /-- After a target was not found, nothing is removed before another one is. -/
  passedOver : ∀ earlier target gap other answer later,
    events = earlier ++ .tested target false :: gap ++ .removed other answer :: later →
      .tested other true ∈ gap

/-- What stands last stands in the second part, if the first one ends with something else. -/
theorem Guarded.mem_gap {targets : List Target} {events earlier gap later : List Event}
    {target other : Target} {answer : Except IoError Unit} (hguarded : Guarded targets events)
    (hsplit : events = earlier ++ .tested target false :: gap ++ .removed other answer :: later) :
    .tested other true ∈ gap := by
  obtain ⟨-, front, stamp, hfront⟩ := hguarded _ other answer later hsplit
  rcases List.append_eq_append_iff.mp hfront with ⟨rest, -, hgap⟩ | ⟨rest, hfront, hgap⟩
  · rcases rest with _ | ⟨first, rest⟩
    · simp at hgap
    · obtain ⟨-, rfl⟩ := List.cons.inj hgap
      simp
  · rcases rest with _ | ⟨first, _ | ⟨second, rest⟩⟩
    · simp at hgap
    · simp at hgap
    · simp at hgap

theorem Moment.Confirms.isTrue {moment : Moment} {earlier later : List Event} {event : Event}
    (htrue : moment.Confirms (earlier ++ event :: later)) :
    event.IsTrue (moment.replay earlier) := by
  obtain ⟨-, hevent, -⟩ := Moment.confirms_append.mp htrue
  exact hevent

section Guarded

variable {targets : List Target} {start : Moment} {events earlier later : List Event}
variable {target : Target} {answer : Except IoError Unit}

theorem isTree_before_removal (htree : start.files.IsTree) (htrue : start.Confirms events)
    (hsmooth : ∀ event ∈ earlier, event.IsSmooth)
    (hsplit : events = earlier ++ .removed target answer :: later) :
    (start.replay earlier).files.IsTree := by
  rw [hsplit] at htrue
  exact Moment.isTree_replay htree (Moment.confirms_append.mp htrue).1 hsmooth

theorem removal_of_guarded (hbefore : (start.replay earlier).files.IsTree)
    (htrue : start.Confirms events) (hguarded : Guarded targets events)
    (hsplit : events = earlier ++ .removed target answer :: later) :
    Removal targets start earlier target := by
  obtain ⟨hconfigured, front, stamp, hfront⟩ := hguarded earlier target answer later hsplit
  have hfound : target.isPresent (start.replay front).files = true := by
    rw [hsplit, hfront, List.append_assoc] at htrue
    exact htrue.isTrue.symm
  have hloses := target.remove_loses (start.replay earlier).files
  exact ⟨hconfigured, ⟨front, stamp, hfront, hfound⟩,
    hloses.mono fun place => target.covers_of_mayTake hbefore,
    fun place object path => Target.remove_of_link,
    fun place object path other found => Target.entry?_remove_of_link hbefore⟩

end Guarded

/-- Events that were true at their moments, and kept the order of a run, change no more than a run
may change. -/
theorem framed_of_guarded {targets : List Target} {start : Moment} {events : List Event}
    (htree : start.files.IsTree) (htrue : start.Confirms events)
    (hguarded : Guarded targets events)
    (hsmooth : ∀ earlier target answer later,
      events = earlier ++ .removed target answer :: later → ∀ event ∈ earlier, event.IsSmooth) :
    Framed targets start events (start.replay events) := by
  have hbefore : ∀ earlier target answer later,
      events = earlier ++ .removed target answer :: later →
        (start.replay earlier).files.IsTree := by
    intro earlier target answer later hsplit
    exact isTree_before_removal htree htrue (hsmooth _ _ _ _ hsplit) hsplit
  have hkeeps := Moment.keeps_replay start events
  refine ⟨⟨rfl, htrue⟩, hkeeps.here, hkeeps.root, ?lost, ?gained, hkeeps.objects, ?opened,
    ?removals, ?passedOver⟩
  case lost =>
    intro place entry hentry hlost
    obtain ⟨earlier, target, answer, later, hsplit, hhad, hgone, htake⟩ :=
      Moment.exists_removal hentry hlost
    have hcovers := target.covers_of_mayTake (hbefore _ _ _ _ hsplit) htake
    exact ⟨earlier, target, answer, later, hsplit, hhad, hgone, hcovers⟩
  case gained =>
    intro place entry hentry hnew
    exact Moment.exists_opening_of_gained hentry hnew
  case opened =>
    intro object hhandle
    exact Moment.exists_opening hhandle
  case removals =>
    intro earlier target answer later hsplit
    exact removal_of_guarded (hbefore _ _ _ _ hsplit) htrue hguarded hsplit
  case passedOver =>
    intro earlier target gap other answer later hsplit
    exact hguarded.mem_gap hsplit

/-- In a tree, a run changes nothing but the file of its log, and takes nothing away but what the
removals of its targets may take. -/
theorem Act.run_framed {σ τ : Type} (manager : Manager σ) (clock : Clock τ) (rounds : Nat)
    (config : Config) (scene : Scene σ τ) (htree : scene.files.IsTree) :
    Framed config.targets scene.moment (run manager clock rounds config scene).events
      (run manager clock rounds config scene).scene.moment := by
  have hrun := run_shows manager clock rounds config scene
  obtain ⟨hlast, htrue⟩ := accounts_run manager clock rounds config scene
  rw [hlast]
  have hsmooth : ∀ earlier target answer later,
      (run manager clock rounds config scene).events =
        earlier ++ .removed target answer :: later → ∀ event ∈ earlier, event.IsSmooth := by
    intro earlier target answer later hsplit
    exact hrun.smooth_before_removal hsplit
  exact framed_of_guarded htree htrue hrun.guarded hsmooth

open Rehearsal in
theorem Act.run_framed_installed :
    let scene : Scene Scripted Time :=
      { manager.script.loaded := [("com.saltstack.salt.minion", 2)]
        clock := {}
        files := ((FileSystem.empty.makeDirectory (.ofString "/opt/salt/bin")).makeLink
          (.ofString "/opt/salt/conf") (.ofString "/etc/salt")).makeDirectory (.ofString "/etc/salt")
        log := .opened (.ofString "/opt/salt/run.txt") "preinstall"
        progress := .fresh }
    scene.files.IsTree ∧
      (run Scripted.manager Time.clock 3 .standard scene).ending =
        .done ⟨["salt-minion"], [.ofString "/opt/salt"],
          [.ofString "/usr/local/sbin/salt-config", .ofString "/etc/paths.d/salt"], 0⟩ ∧
      Framed Config.standard.targets scene.moment
        (run Scripted.manager Time.clock 3 .standard scene).events
        (run Scripted.manager Time.clock 3 .standard scene).scene.moment := by
  have htree : (((FileSystem.empty.makeDirectory (.ofString "/opt/salt/bin")).makeLink
      (.ofString "/opt/salt/conf") (.ofString "/etc/salt")).makeDirectory
        (.ofString "/etc/salt")).IsTree :=
    FileSystem.IsTree.of_entries (by decide)
  exact ⟨htree, rfl, run_framed _ _ _ _ _ htree⟩

end Decommission
