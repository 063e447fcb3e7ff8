import Decommission.Proofs.FileSystem.Vacancy
import Decommission.Proofs.Invocation.Status
import Decommission.Proofs.Log.Logbook
import Decommission.Proofs.Run.Frame
import Decommission.Rehearsal.Ground
import Decommission.Rehearsal.Time

/-!
# The record of an invocation

The first line of an invocation opens its log, and all lines go to the file that was opened.  A
failure is recorded there by one fatal line, which is the last.  Whether that file is still found
under the path of the log is up to the targets: where one of them is the log, or has the log in it,
or is a link on the way to it, the record is written to a file that has no name any more.
-/

namespace Decommission

open FileSystem

/-- The event is the record of a fault. -/
def Event.IsFatal : Event → Prop
  | .trapped _ _ => True
  | _ => False

/-- The line of an event as it is in a file. -/
def Event.bytes (event : Event) : Bytes :=
  match event.line? with
  | some (stamp, message) => bytesOf (RunLog.line stamp message)
  | none => []

theorem Event.IsSmooth.not_isFatal {event : Event} (hsmooth : event.IsSmooth) : ¬event.IsFatal := by
  cases event with
  | trapped stamp message => exact hsmooth.elim
  | listed | disabled | bootedOut | paused | tested | removed | said => exact not_false

theorem Event.Causes.not_isFatal {policy : StopPolicy} {cause : Event} {fault : Fault}
    {stage : Stage} {caller : Origin} (hcauses : cause.Causes policy fault stage caller) :
    ¬cause.IsFatal := by
  cases hcauses <;> exact not_false

namespace Records

variable {α : Type} {log : RunLog} {policy : StopPolicy} {stage : Stage} {events : List Event}

theorem exists_fatal {fault : Fault}
    (hrecords : Records log policy stage events (.failed fault : Ending α)) :
    ∃ earlier stamp caller, events = earlier ++ [.trapped stamp (log.fatal caller fault)] ∧
      ∀ event ∈ earlier, ¬event.IsFatal := by
  obtain ⟨earlier, cause, stamp, caller, rfl, hcauses, hsmooth⟩ := hrecords
  refine ⟨earlier ++ [cause], stamp, caller, by simp, ?_⟩
  rw [List.forall_mem_append, List.forall_mem_singleton]
  exact ⟨fun event hevent => (hsmooth event hevent).not_isFatal, hcauses.not_isFatal⟩

theorem not_isFatal {ending : Ending α} (hrecords : Records log policy stage events ending)
    (hending : ∀ fault, ending ≠ .failed fault) : ∀ event ∈ events, ¬event.IsFatal := by
  cases ending with
  | failed fault => exact absurd rfl (hending fault)
  | done _ | halted _ => exact fun event hevent =>
      Event.IsSmooth.not_isFatal (hrecords event hevent)

end Records

namespace Moment

variable {moment : Moment} {events : List Event} {object : ObjectId} {opened : FileSystem}

/-! ## The file of the log -/

/-- The log is open, and its file is there. -/
structure IsOpen (moment : Moment) (object : ObjectId) : Prop where
  handle : moment.log.handle = some object
  object : (moment.files.object? object).isSome

theorem written_of_isOpen (hopen : moment.IsOpen object) (stamp : Stamp) (message : String) :
    moment.written stamp message =
      ⟨moment.log, moment.files.append object (bytesOf (RunLog.line stamp message))⟩ := by
  obtain ⟨⟨path, entryPoint, handle⟩, files⟩ := moment
  obtain rfl : handle = some object := hopen.handle
  rw [written, RunLog.write_of_attach (RunLog.attach_of_handle rfl files)]

theorem isOpen_after (hopen : moment.IsOpen object) (event : Event) :
    (event.after moment).IsOpen object := by
  have hkeeps := keeps_after event moment
  refine ⟨hkeeps.handle object hopen.handle, ?_⟩
  rcases hkeeps.objects object with hsame | ⟨-, hgrown⟩
  · rw [hsame]
    exact hopen.object
  · obtain ⟨file, hfile⟩ := Option.isSome_iff_exists.mp hopen.object
    obtain ⟨bytes, hafter⟩ := hgrown file hfile
    rw [hafter]
    rfl

/-- An event adds its line to the file of the log, if it has one. -/
theorem content_after (hopen : moment.IsOpen object) (event : Event) :
    (event.after moment).files.content object =
      moment.files.content object ++ event.bytes := by
  have hline : ∀ stamp message, (moment.written stamp message).files.content object =
      moment.files.content object ++ bytesOf (RunLog.line stamp message) := by
    intro stamp message
    rw [written_of_isOpen hopen]
    exact content_append_self hopen.object _
  cases event with
  | said stamp message | trapped stamp message => exact hline stamp message
  | removed target answer =>
      have hobjects := (target.remove_loses moment.files).objects
      show content (target.remove moment.files).2 object = _ ++ []
      rw [content, object?, hobjects, List.append_nil]
      rfl
  | listed | disabled | bootedOut | paused | tested => exact (List.append_nil _).symm

/-- Events add their lines in order. -/
theorem content_replay (hopen : moment.IsOpen object) :
    (moment.replay events).files.content object =
      moment.files.content object ++ events.flatMap Event.bytes := by
  induction events generalizing moment with
  | nil => exact (List.append_nil _).symm
  | cons event rest ih =>
      rw [replay_cons, ih (isOpen_after hopen event), content_after hopen, List.flatMap_cons,
        List.append_assoc]

/-! ## The path of the log -/

theorem isPart_after (hopen : moment.IsOpen object) (event : Event) :
    (event.after moment).files.IsPart moment.files := by
  cases event with
  | said stamp message | trapped stamp message =>
      show (moment.written stamp message).files.IsPart moment.files
      rw [written_of_isOpen hopen]
      exact isPart_append _ _ _
  | removed target answer => exact (target.remove_loses moment.files).isPart
  | listed | disabled | bootedOut | paused | tested => exact IsPart.refl _

/-- Once the log is open, entries are only lost. -/
theorem isPart_replay (hopen : moment.IsOpen object) :
    (moment.replay events).files.IsPart moment.files := by
  induction events generalizing moment with
  | nil => exact IsPart.refl _
  | cons event rest ih =>
      exact (ih (isOpen_after hopen event)).trans (isPart_after hopen event)

/-- The first line opens the log. -/
theorem after_of_unopened (hclosed : moment.log.handle = none)
    (hopen : moment.files.openAppend moment.log.path = .ok (object, opened)) {event : Event}
    (hline : event.line? ≠ none) :
    event.after moment =
      ⟨{ moment.log with handle := some object }, opened.append object event.bytes⟩ := by
  have hattach : moment.log.attach moment.files = .ok (object, opened) := by
    rw [RunLog.attach, hclosed, hopen]
  have hwritten : ∀ stamp message, moment.written stamp message =
      ⟨{ moment.log with handle := some object },
        opened.append object (bytesOf (RunLog.line stamp message))⟩ := by
    intro stamp message
    rw [written, RunLog.write_of_attach hattach]
  cases event with
  | said stamp message | trapped stamp message => exact hwritten stamp message
  | listed | disabled | bootedOut | paused | tested | removed => exact absurd rfl hline

theorem isOpen_of_unopened (hclosed : moment.log.handle = none)
    (hopen : moment.files.openAppend moment.log.path = .ok (object, opened)) {event : Event}
    (hline : event.line? ≠ none) : (event.after moment).IsOpen object := by
  rw [after_of_unopened hclosed hopen hline]
  refine ⟨rfl, ?_⟩
  show ((opened.append object event.bytes).object? object).isSome
  rw [isSome_object?_append]
  exact isSome_of_openAppend hopen

theorem isOpen_replay (hopen : moment.IsOpen object) : (moment.replay events).IsOpen object := by
  induction events generalizing moment with
  | nil => exact hopen
  | cons event rest ih => exact ih (isOpen_after hopen event)

/-- The removal of a target takes an entry away that stands at one of these places. -/
def Severs (start : Moment) (events : List Event) (trail : List Place) : Prop :=
  ∃ earlier target answer later, events = earlier ++ .removed target answer :: later ∧
    ∃ place ∈ trail, entry? (start.replay earlier).files place ≠ none ∧
      entry? (target.remove (start.replay earlier).files).2 place = none

section Unopened

variable {event : Event} {more : List Event} (hclosed : moment.log.handle = none)
variable (hopen : moment.files.openAppend moment.log.path = .ok (object, opened))
variable (hline : event.line? ≠ none)

include hclosed hopen hline in
/-- If an entry on the way to the log is missing in the end, a removal has taken it. -/
theorem severs_iff :
    moment.Severs (event :: more) (opened.trail true moment.log.path) ↔
      ∃ place ∈ opened.trail true moment.log.path,
        entry? (moment.replay (event :: more)).files place = none := by
  have hbegun := isOpen_of_unopened hclosed hopen hline
  constructor
  · rintro ⟨earlier, target, answer, later, hsplit, place, hplace, -, hgone⟩
    refine ⟨place, hplace, ?_⟩
    rcases earlier with _ | ⟨first, earlier⟩
    · -- The first event is a line, and no removal.
      obtain ⟨rfl, -⟩ := List.cons.inj hsplit
      exact absurd rfl hline
    · obtain ⟨rfl, -⟩ := List.cons.inj hsplit
      have hbefore : ((event.after moment).replay earlier).IsOpen object := isOpen_replay hbegun
      have hafter := isOpen_after hbefore (.removed target answer)
      rw [replay_split hsplit]
      exact (isPart_replay hafter).entry?_eq_none hgone
  · rintro ⟨place, hplace, hmissing⟩
    obtain ⟨spot, hfind⟩ := find?_openAppend hopen
    obtain ⟨entry, hentry⟩ :=
      Option.ne_none_iff_exists'.mp (entry?_of_mem_trail hfind place hplace)
    have hpresent : entry? (event.after moment).files place = some entry := by
      rw [after_of_unopened hclosed hopen hline]
      exact hentry
    have hlost : entry? ((event.after moment).replay more).files place ≠ some entry := by
      rw [← replay_cons, hmissing]
      simp
    obtain ⟨earlier, target, answer, later, rfl, hbefore, hgone, -⟩ := exists_removal hpresent hlost
    refine ⟨event :: earlier, target, answer, later, rfl, place, hplace, ?_, hgone⟩
    rw [replay_cons, hbefore]
    simp

include hclosed hopen hline in
/-- The path of the log leads to the file of the log, or else a removal has severed it. -/
theorem find?_replay :
    (moment.Severs (event :: more) (opened.trail true moment.log.path) ∧
        find? (moment.replay (event :: more)).files true moment.log.path = none) ∨
      ¬moment.Severs (event :: more) (opened.trail true moment.log.path) ∧
        ∃ place, find? (moment.replay (event :: more)).files true moment.log.path =
          some (place, .file object) := by
  obtain ⟨place, hopened⟩ := find?_openAppend hopen
  have hsame : trail (opened.append object event.bytes) true moment.log.path =
      opened.trail true moment.log.path ∧
        find? (opened.append object event.bytes) true moment.log.path =
          opened.find? true moment.log.path :=
    find?_congr rfl fun _ _ => entry?_append object event.bytes _
  have hbegun : find? (event.after moment).files true moment.log.path =
      some (place, .file object) := by
    rw [after_of_unopened hclosed hopen hline]
    exact hsame.2.trans hopened
  have hpart : (moment.replay (event :: more)).files.IsPart (event.after moment).files :=
    isPart_replay (isOpen_of_unopened hclosed hopen hline)
  have hnowhere := hpart.find?_eq_none_iff hbegun
  have htrail : trail (event.after moment).files true moment.log.path =
      opened.trail true moment.log.path := by
    rw [after_of_unopened hclosed hopen hline]
    exact hsame.1
  rw [htrail, ← severs_iff hclosed hopen hline] at hnowhere
  cases hfind : find? (moment.replay (event :: more)).files true moment.log.path with
  | none => exact Or.inl ⟨hnowhere.mp hfind, rfl⟩
  | some found =>
      have hfound := hpart.find? hfind
      rw [hbegun] at hfound
      refine Or.inr ⟨fun hsevers => ?_, place, hfound.symm⟩
      rw [hnowhere.mpr hsevers] at hfind
      cases hfind

end Unopened

end Moment

/-! ## Invocations -/

/-- Where the lines of an invocation go: to the log of its configuration, or without one to the log
that the command line falls back to. -/
inductive CommandLine.LogsTo (line : CommandLine) (files : FileSystem) : Path → Prop where
  | effective {config} (hconfig : line.Configures files config) : LogsTo line files config.logPath
  | fallback {reason} (hrejects : line.Rejects files reason) :
      LogsTo line files line.fallbackLogPath

namespace Invocation

open CommandLine

variable {κ τ : Type} (invocation : Invocation) (files : FileSystem)

/-- The moment before the first line. -/
def outset (path : Path) : Moment := ⟨.opened path (entryPoint invocation.program), files⟩

/-- What has become of the log at a path, which was opened as this file. -/
structure Recorded (path : Path) (object : ObjectId) (opened : FileSystem)
    (conclusion : Conclusion κ τ) : Prop where
  /-- The lines are in the file, behind what was there before. -/
  content : conclusion.files.content object =
    files.content object ++ conclusion.events.flatMap Event.bytes
  /-- A failure has one fatal line, which is the last. -/
  failed : conclusion.status = some 1 ∨ conclusion.status = some 2 →
    ∃ earlier stamp caller fault, conclusion.events =
        earlier ++ [.trapped stamp ((invocation.outset files path).log.fatal caller fault)] ∧
      ∀ event ∈ earlier, ¬event.IsFatal
  notFailed : conclusion.status ≠ some 1 → conclusion.status ≠ some 2 →
    ∀ event ∈ conclusion.events, ¬event.IsFatal
  /-- The file is found under the path, if no removal has taken anything on the way there. -/
  kept : ¬(invocation.outset files path).Severs conclusion.events (opened.trail true path) →
    ∃ place, conclusion.files.find? true path = some (place, .file object)
  /-- If one has, nothing is found there. -/
  lost : (invocation.outset files path).Severs conclusion.events (opened.trail true path) →
    conclusion.files.find? true path = none

variable (children : Children κ) (clock : Clock τ) (rounds : Nat) (running : κ) (time : τ)
variable {invocation files} {line : CommandLine} {path : Path}
variable (hread : CommandLine.read invocation.arguments = .ok line)

include hread in
/-- An invocation begins with a line, and its events account for what has become of the files. -/
theorem perform_replays (hpath : line.LogsTo files path) :
    let conclusion := invocation.perform children clock rounds files running time
    ∃ event more, conclusion.events = event :: more ∧ event.line? ≠ none ∧
      conclusion.files = ((invocation.outset files path).replay conclusion.events).files := by
  dsimp only
  cases hpath with
  | @effective config hconfig =>
      obtain ⟨stamp, more, hevents⟩ :=
        invocation.exists_opening_of_runWith children clock rounds files running time config
      have haccounts := Act.accounts_run
        (Launchctl.manager ⟨config.launchctl, config.domain⟩ children) clock rounds config
        (scene files running time (.opened config.logPath (entryPoint invocation.program)))
      rw [perform_of_configures children clock rounds running time hread hconfig]
      exact ⟨_, more, hevents, by simp [Event.line?], congrArg Moment.files haccounts.1⟩
  | fallback hrejects =>
      rw [perform_of_rejects children clock rounds running time hread hrejects]
      exact ⟨_, [], rfl, by simp [Event.line?], rfl⟩

include hread in
theorem perform_fatal (hpath : line.LogsTo files path) :
    let conclusion := invocation.perform children clock rounds files running time
    (conclusion.status = some 1 ∨ conclusion.status = some 2) ∧
        (∃ earlier stamp caller fault, conclusion.events =
          earlier ++ [.trapped stamp ((invocation.outset files path).log.fatal caller fault)] ∧
            ∀ event ∈ earlier, ¬event.IsFatal) ∨
      (conclusion.status ≠ some 1 ∧ conclusion.status ≠ some 2) ∧
        ∀ event ∈ conclusion.events, ¬event.IsFatal := by
  dsimp only
  cases hpath with
  | @effective config hconfig =>
      have hrun := Act.run_shows (Launchctl.manager ⟨config.launchctl, config.domain⟩ children)
        clock rounds config
        (scene files running time (.opened config.logPath (entryPoint invocation.program)))
      obtain ⟨stage, hrecords, -⟩ := hrun.records rfl
      rw [perform_of_configures children clock rounds running time hread hconfig]
      dsimp only [conclude]
      change Records _ _ _
        (invocation.runWith children clock rounds files running time config).events
        (invocation.runWith children clock rounds files running time config).ending at hrecords
      generalize invocation.runWith children clock rounds files running time config = performed
        at hrecords ⊢
      by_cases hfailed : ∃ fault, performed.ending = .failed fault
      · obtain ⟨fault, hfault⟩ := hfailed
        rw [hfault] at hrecords
        obtain ⟨earlier, stamp, caller, hevents, hearlier⟩ := hrecords.exists_fatal
        have hone := statusOf_eq_one_iff.mpr ⟨fault, hfault⟩
        exact Or.inl ⟨Or.inl hone, earlier, stamp, caller, fault, hevents, hearlier⟩
      · have hone := mt statusOf_eq_one_iff.mp hfailed
        exact Or.inr ⟨⟨hone, statusOf_ne_two⟩, hrecords.not_isFatal (not_exists.mp hfailed)⟩
  | fallback hrejects =>
      rw [perform_of_rejects children clock rounds running time hread hrejects]
      exact Or.inl ⟨Or.inr rfl, [], _, _, _, rfl, by simp⟩

include hread in
/-- A failure leaves one fatal line in the file that was opened as the log, and what is no failure
leaves none.  The file is found under the path of the log as long as no target severs it. -/
theorem perform_records {object : ObjectId} {opened : FileSystem} (hpath : line.LogsTo files path)
    (hopen : files.openAppend path = .ok (object, opened)) :
    invocation.Recorded files path object opened
      (invocation.perform children clock rounds files running time) := by
  obtain ⟨event, more, hevents, hline, hfiles⟩ :=
    perform_replays children clock rounds running time hread hpath
  have hfatal := perform_fatal children clock rounds running time hread hpath
  dsimp only at hfatal
  generalize invocation.perform children clock rounds files running time = conclusion
    at hevents hfiles hfatal ⊢
  have hclosed : (invocation.outset files path).log.handle = none := rfl
  have hbegun := Moment.isOpen_of_unopened hclosed hopen hline
  have hfind := @Moment.find?_replay _ _ _ _ more hclosed hopen hline
  rw [← hevents, ← hfiles] at hfind
  refine ⟨?content, ?failed, ?notFailed, ?kept, ?lost⟩
  case content =>
    rw [hfiles, hevents, Moment.replay_cons, Moment.content_replay hbegun,
      Moment.after_of_unopened rfl hopen hline, List.flatMap_cons, ← List.append_assoc,
      ← content_openAppend hopen, ← content_append_self (isSome_of_openAppend hopen)]
  case failed =>
    intro hstatus
    rcases hfatal with ⟨-, hrecord⟩ | ⟨⟨hone, htwo⟩, -⟩
    · exact hrecord
    · exact absurd hstatus (not_or.mpr ⟨hone, htwo⟩)
  case notFailed =>
    intro hone htwo
    rcases hfatal with ⟨hstatus, -⟩ | ⟨-, hnone⟩
    · exact absurd hstatus (not_or.mpr ⟨hone, htwo⟩)
    · exact hnone
  case kept =>
    intro hkept
    rcases hfind with ⟨hsevers, -⟩ | ⟨-, hfound⟩
    · exact absurd hsevers hkept
    · exact hfound
  case lost =>
    intro hsevers
    rcases hfind with ⟨-, hnone⟩ | ⟨hkept, -⟩
    · exact hnone
    · exact absurd hsevers hkept

section Rehearsals

open Rehearsal

/-- Without a control program the run fails, and its log stays. -/
theorem perform_records_unstopped :
    let files := FileSystem.empty.makeDirectory (.ofString "/tmp")
    let opened := (files.addObject {}).2.put [bytesOf "tmp", bytesOf "preinstall.txt"] (.file 0)
    let invocation : Invocation := ⟨none, []⟩
    let conclusion := invocation.perform Programs.children Time.clock 1 files {} {}
    CommandLine.read invocation.arguments = .ok {} ∧
      CommandLine.LogsTo {} files Config.defaultLogPath ∧
      files.openAppend Config.defaultLogPath = .ok (0, opened) ∧ conclusion.status = some 1 ∧
      invocation.Recorded files Config.defaultLogPath 0 opened conclusion := by
  have hread : CommandLine.read [] = .ok {} := rfl
  have hpath : CommandLine.LogsTo {} (FileSystem.empty.makeDirectory (.ofString "/tmp"))
      Config.defaultLogPath :=
    .effective ⟨.standard, .standard rfl, rfl, rfl⟩
  refine ⟨hread, hpath, rfl, ?_, ?_⟩
  · with_unfolding_all rfl
  · exact perform_records _ _ _ _ _ hread hpath rfl

/-- The second of the artifacts has the log in it, and the third one cannot be removed. -/
theorem exists_severed_record :
    let files := (((FileSystem.empty.makeDirectory (.ofString "/opt/salt")).write
      (.ofString "/etc/paths.d/salt") []).setAccess (.ofString "/etc/paths.d") ⟨true, false, true⟩)
    let ground := Ground.install "/bin/launchctl" .scripted (files, {})
    let path := Path.ofString "/opt/salt/run.txt"
    let invocation : Invocation := ⟨none, [bytesOf "--log-file", path.bytes]⟩
    let conclusion := invocation.perform Programs.children Time.clock 1 ground.1 ground.2 {}
    CommandLine.read invocation.arguments = .ok { logFile := some path } ∧
      CommandLine.LogsTo { logFile := some path } ground.1 path ∧
      (ground.1.openAppend path).isOk ∧ conclusion.status = some 1 ∧
      conclusion.files.find? true path = none := by
  refine ⟨?_, .effective ⟨.standard, .standard rfl, rfl, rfl⟩, ?_, ?_, ?_⟩
  · with_unfolding_all rfl
  · with_unfolding_all rfl
  · with_unfolding_all rfl
  · with_unfolding_all rfl

end Rehearsals

end Invocation

end Decommission
