import Decommission.Proofs.Config.Reasons
import Decommission.Proofs.Invocation.Record
import Decommission.Proofs.Run.Plainness

/-!
# Lines of the run log as lines of text

Each line of the run log begins with its stamp and ends with a newline.  Whether it is one line of
text is up to its message: a name, a path or a command with a newline in it breaks the line, and
a configuration is valid nevertheless.
-/

namespace Decommission

open FileSystem

/-! ## Lines in bytes -/

/-- The lines of some events, with their stamps. -/
def linesOf (events : List Event) : List (Stamp × String) :=
  events.filterMap Event.line?

/-- A line without the newline behind it. -/
def textOf (line : Stamp × String) : Bytes :=
  bytesOf (line.1.display ++ ": " ++ line.2)

/-- The bytes are as many lines of text as the events have lines, and each of these begins with its
stamp. -/
structure OneLineEach (events : List Event) (bytes : Bytes) : Prop where
  count : bytes.count newline = (linesOf events).length
  lines : bytes.splitOn newline = (linesOf events).map textOf ++ [[]]

section Lines

variable {events : List Event}

theorem linesOf_cons_of_line {event : Event} {line : Stamp × String}
    (hline : event.line? = some line) : linesOf (event :: events) = line :: linesOf events :=
  List.filterMap_cons_some hline

theorem linesOf_cons_of_quiet {event : Event} (hline : event.line? = none) :
    linesOf (event :: events) = linesOf events :=
  List.filterMap_cons_none hline

theorem bytes_of_line {event : Event} {line : Stamp × String} (hline : event.line? = some line) :
    event.bytes = textOf line ++ [newline] := by
  rw [Event.bytes, hline]
  exact bytesOf_append _ _

theorem bytes_of_quiet {event : Event} (hline : event.line? = none) : event.bytes = [] := by
  rw [Event.bytes, hline]

theorem flatMap_bytes (events : List Event) :
    events.flatMap Event.bytes =
      ((linesOf events).map textOf).flatMap fun text => text ++ [newline] := by
  induction events with
  | nil => rfl
  | cons event rest ih =>
      rw [List.flatMap_cons, ih]
      cases hline : event.line? with
      | none => rw [linesOf_cons_of_quiet hline, bytes_of_quiet hline, List.nil_append]
      | some line =>
          rw [linesOf_cons_of_line hline, bytes_of_line hline, List.map_cons, List.flatMap_cons]

theorem newline_not_mem_textOf {line : Stamp × String} :
    newline ∉ textOf line ↔ IsOneLine line.2 := by
  rw [textOf, ← isOneLine_iff_newline_not_mem]
  simp +decide [line.1.isOneLine_display]

theorem count_newline_lines (texts : List Bytes) :
    (texts.flatMap fun text => text ++ [newline]).count newline =
      texts.flatten.count newline + texts.length := by
  induction texts with
  | nil => rfl
  | cons text rest ih =>
      rw [List.flatMap_cons, List.count_append, List.count_append, ih, List.count_singleton_self,
        List.flatten_cons, List.count_append, List.length_cons]
      omega

theorem splitOn_lines {texts : List Bytes} (htexts : ∀ text ∈ texts, newline ∉ text) :
    (texts.flatMap fun text => text ++ [newline]).splitOn newline = texts ++ [[]] := by
  induction texts with
  | nil => rfl
  | cons text rest ih =>
      obtain ⟨htext, hrest⟩ := List.forall_mem_cons.mp htexts
      have hfirst : ∀ byte ∈ text, (byte == newline) = false := by
        intro byte hbyte
        rw [beq_eq_false_iff_ne]
        rintro rfl
        exact htext hbyte
      rw [List.flatMap_cons, List.append_assoc, List.singleton_append, List.splitOn,
        List.splitOnP_append_cons_of_forall_mem hfirst newline (beq_self_eq_true newline),
        ← List.splitOn, ih hrest, List.cons_append]

/-- Every line is one line of text exactly when every message is. -/
theorem oneLineEach_iff : OneLineEach events (events.flatMap Event.bytes) ↔
    ∀ line ∈ linesOf events, IsOneLine line.2 := by
  simp only [← newline_not_mem_textOf]
  constructor
  · intro heach line hline hmem
    have hcount := heach.count
    rw [flatMap_bytes, count_newline_lines, List.length_map, Nat.add_eq_right,
      List.count_eq_zero] at hcount
    exact hcount (List.mem_flatten_of_mem (List.mem_map_of_mem hline) hmem)
  · intro hlines
    have htexts : ∀ text ∈ (linesOf events).map textOf, newline ∉ text :=
      List.forall_mem_map.mpr hlines
    have hnone : newline ∉ ((linesOf events).map textOf).flatten := by
      intro hmem
      obtain ⟨text, htext, hnewline⟩ := List.mem_flatten.mp hmem
      exact htexts text htext hnewline
    refine ⟨?_, ?_⟩
    · rw [flatMap_bytes, count_newline_lines, List.length_map, List.count_eq_zero.mpr hnone,
        Nat.zero_add]
    · rw [flatMap_bytes]
      exact splitOn_lines htexts

end Lines

/-! ## What is written -/

namespace Moment

variable {moment last : Moment} {events : List Event}

/-- The first events find no log that their lines could go to; the lines of the others are appended
to the file of the log, and nothing else is appended anywhere. -/
structure Writes (first last : Moment) (lost kept : List Event) : Prop where
  refused : ∀ earlier event later, lost = earlier ++ event :: later → event.line? ≠ none →
    ∃ cause, (first.replay earlier).log.attach (first.replay earlier).files = .error cause
  opened : linesOf kept ≠ [] → last.log.handle ≠ none
  content : ∀ object, last.files.content object = first.files.content object ++
    if last.log.handle = some object then kept.flatMap Event.bytes else []

/-- The lines of some events are written from one moment to the other, each of them as one line of
text exactly when every message stays in one line. -/
def Logs (first last : Moment) (events : List Event) : Prop :=
  ∃ lost kept, events = lost ++ kept ∧ first.Writes last lost kept ∧
    (OneLineEach kept (kept.flatMap Event.bytes) ↔ ∀ line ∈ linesOf kept, IsOneLine line.2)

/-- An open log has a file. -/
def IsSound (moment : Moment) : Prop :=
  ∀ object, moment.log.handle = some object → (moment.files.object? object).isSome

/-- An open log takes every line. -/
theorem writes_of_isOpen {object : ObjectId} (hopen : moment.IsOpen object) :
    moment.Writes (moment.replay events) [] events := by
  have hhandle : (moment.replay events).log.handle = some object := (isOpen_replay hopen).handle
  refine ⟨by simp, fun _ => by simp [hhandle], fun other => ?_⟩
  · rw [hhandle]
    by_cases hother : other = object
    · rw [hother, if_pos rfl]
      exact content_replay hopen
    · rw [if_neg fun hsame => hother (Option.some.inj hsame).symm, List.append_nil]
      obtain hsame | ⟨hfile, -⟩ := (keeps_replay moment events).objects other
      · rw [content, content, hsame]
      · rw [hhandle] at hfile
        exact absurd (Option.some.inj hfile).symm hother

/-- The first line opens the log, and no line is lost from there on. -/
theorem writes_of_opening {event : Event} {object : ObjectId} {opened : FileSystem}
    (hclosed : moment.log.handle = none)
    (hopen : moment.files.openAppend moment.log.path = .ok (object, opened))
    (hline : event.line? ≠ none) :
    moment.Writes (moment.replay (event :: events)) [] (event :: events) := by
  have hbegun := isOpen_of_unopened hclosed hopen hline
  have hnext : (event.after moment).Writes (moment.replay (event :: events)) [] events :=
    writes_of_isOpen hbegun
  have hhandle : (moment.replay (event :: events)).log.handle = some object :=
    (isOpen_replay hbegun).handle
  refine ⟨by simp, fun _ => by simp [hhandle], fun other => ?_⟩
  · rw [hnext.content other, hhandle, after_of_unopened hclosed hopen hline,
      ← content_openAppend hopen]
    by_cases hother : object = other
    · subst hother
      rw [if_pos rfl, if_pos rfl, content_append_self (isSome_of_openAppend hopen),
        List.flatMap_cons, List.append_assoc]
    · have hne : some object ≠ some other := fun hsame => hother (Option.some.inj hsame)
      rw [if_neg hne, if_neg hne, content_append_of_ne (Ne.symm hother)]

/-- An event that leaves all files as they are comes first among those that write nothing. -/
theorem Writes.skip {event : Event} {lost kept : List Event}
    (hwrites : (event.after moment).Writes last lost kept)
    (hcontent : ∀ object, (event.after moment).files.content object = moment.files.content object)
    (hrefused : event.line? ≠ none → ∃ cause, moment.log.attach moment.files = .error cause) :
    moment.Writes last (event :: lost) kept where
  refused earlier other later hsplit hline := by
    cases earlier with
    | nil =>
        obtain ⟨rfl, -⟩ := List.cons.inj hsplit
        exact hrefused hline
    | cons first earlier =>
        obtain ⟨rfl, hrest⟩ := List.cons.inj hsplit
        exact hwrites.refused earlier other later hrest hline
  opened := hwrites.opened
  content object := by
    rw [← hcontent]
    exact hwrites.content object

theorem log_after_of_quiet {event : Event} (hline : event.line? = none) :
    (event.after moment).log = moment.log := by
  cases event with
  | said | trapped => cases hline
  | listed | disabled | bootedOut | paused | tested | removed => rfl

theorem content_after_of_quiet {event : Event} (hline : event.line? = none) (object : ObjectId) :
    (event.after moment).files.content object = moment.files.content object := by
  cases event with
  | said | trapped => cases hline
  | listed | disabled | bootedOut | paused | tested => rfl
  | removed target answer =>
      show content (target.remove moment.files).2 object = _
      rw [content, content, object?, object?, (target.remove_loses moment.files).objects]

theorem after_of_refused {event : Event} {cause : IoError}
    (hattach : moment.log.attach moment.files = .error cause) (hline : event.line? ≠ none) :
    event.after moment = moment := by
  cases event with
  | said stamp message | trapped stamp message =>
      show moment.written stamp message = moment
      rw [written, RunLog.write_of_refused hattach]
  | listed | disabled | bootedOut | paused | tested | removed => exact absurd rfl hline

/-- Lines are lost until there is a log, and after that none is. -/
theorem exists_writes (hsound : moment.IsSound) (events : List Event) :
    ∃ lost kept, events = lost ++ kept ∧ moment.Writes (moment.replay events) lost kept := by
  induction events generalizing moment with
  | nil => exact ⟨[], [], rfl, by simp, by simp [linesOf], by simp [replay]⟩
  | cons event rest ih =>
      cases hhandle : moment.log.handle with
      | some object =>
          exact ⟨[], event :: rest, rfl, writes_of_isOpen ⟨hhandle, hsound object hhandle⟩⟩
      | none =>
          by_cases hline : event.line? = none
          · have hnext : (event.after moment).IsSound := by
              intro object hobject
              rw [log_after_of_quiet hline, hhandle] at hobject
              cases hobject
            obtain ⟨lost, kept, hsplit, hwrites⟩ := ih hnext
            have hskip := hwrites.skip (content_after_of_quiet hline) fun hsome => absurd hline hsome
            exact ⟨event :: lost, kept, by rw [hsplit, List.cons_append], hskip⟩
          cases hopen : moment.files.openAppend moment.log.path with
          | error cause =>
              have hattach : moment.log.attach moment.files = .error cause := by
                rw [RunLog.attach, hhandle, hopen]
              have hafter := after_of_refused hattach hline
              obtain ⟨lost, kept, hsplit, hwrites⟩ := ih hsound
              refine ⟨event :: lost, kept, by rw [hsplit, List.cons_append], ?_⟩
              rw [replay_cons, hafter]
              refine Writes.skip ?_ ?_ fun _ => ⟨cause, hattach⟩
              · rwa [hafter]
              · rw [hafter]
                exact fun _ => rfl
          | ok result =>
              obtain ⟨object, opened⟩ := result
              exact ⟨[], event :: rest, rfl, writes_of_opening hhandle hopen hline⟩

theorem logs_replay (hsound : moment.IsSound) (events : List Event) :
    moment.Logs (moment.replay events) events := by
  obtain ⟨lost, kept, hsplit, hwrites⟩ := exists_writes hsound events
  exact ⟨lost, kept, hsplit, hwrites, oneLineEach_iff⟩

end Moment

/-! ## Runs and invocations -/

/-- What a run writes. -/
structure Act.RunLines {σ τ : Type} (config : Config) (scene : Scene σ τ)
    (performed : Performance σ τ RunReport) : Prop where
  logs : scene.moment.Logs performed.scene.moment performed.events
  /-- Every line has its wording, and splits only where one of the texts in it does. -/
  worded : ∀ event ∈ performed.events, ∀ line, event.line? = some line →
    ∃ texts, Worded scene.log config performed.ending event texts ∧
      (IsOneLine line.2 ↔ AreOneLine texts)
  plain : IsOneLine scene.log.entryPoint → AreOneLine config.subjects →
    ArePlain performed.events → ∀ line ∈ linesOf performed.events, IsOneLine line.2

/-- What an invocation writes to the log at a path. -/
structure Invocation.InvocationLines {κ τ : Type} (invocation : Invocation) (line : CommandLine)
    (files : FileSystem) (path : Path) (conclusion : Conclusion κ τ) : Prop where
  logs : ∃ last, last.files = conclusion.files ∧
    (invocation.outset files path).Logs last conclusion.events
  configured : ∀ config, line.Configures files config →
    IsOneLine (CommandLine.entryPoint invocation.program) → AreOneLine config.texts →
      ∀ written ∈ linesOf conclusion.events, IsOneLine written.2
  /-- Without a configuration there is one line, and it says why. -/
  rejected : ∀ reason, line.Rejects files reason → ∃ stamp message texts,
    conclusion.events = [.trapped stamp message] ∧ line.Blames files reason texts ∧
      (IsOneLine message ↔ AreOneLine (CommandLine.entryPoint invocation.program :: texts))

section Lines

variable {σ τ : Type}

theorem mem_linesOf {events : List Event} {line : Stamp × String} :
    line ∈ linesOf events ↔ ∃ event ∈ events, event.line? = some line :=
  List.mem_filterMap

theorem Act.run_writes (manager : Manager σ) (clock : Clock τ) (rounds : Nat) (config : Config)
    {scene : Scene σ τ} (hsound : scene.moment.IsSound) :
    RunLines config scene (run manager clock rounds config scene) := by
  have hrun := run_shows manager clock rounds config scene
  have haccounts := (accounts_run manager clock rounds config scene).1
  refine ⟨?logs, ?worded, ?plain⟩
  case logs =>
    rw [haccounts]
    exact Moment.logs_replay hsound _
  case worded =>
    intro event hevent line hline
    obtain ⟨texts, hworded⟩ := hrun.areWorded event hevent (by simp [hline])
    exact ⟨texts, hworded, hworded.isOneLine_iff hline⟩
  case plain =>
    intro hentry hsubjects hplain line hline
    obtain ⟨event, hevent, hline⟩ := mem_linesOf.mp hline
    exact hrun.isOneLine_of_line hentry hsubjects hplain hevent hline

namespace Invocation

variable {κ : Type} (children : Children κ) (clock : Clock τ) (rounds : Nat)
variable {invocation : Invocation} {files : FileSystem} (running : κ) (time : τ)
variable {line : CommandLine} {path : Path}

/-- With the control program, a configuration with no newline in it makes lines that stay in one
line. -/
theorem isOneLine_of_runWith {config : Config}
    (hentry : IsOneLine (CommandLine.entryPoint invocation.program))
    (htexts : AreOneLine config.texts) :
    ∀ written ∈ linesOf (invocation.runWith children clock rounds files running time config).events,
      IsOneLine written.2 := by
  let manager := Launchctl.manager ⟨config.launchctl, config.domain⟩ children
  let start := scene files running time
    (.opened config.logPath (CommandLine.entryPoint invocation.program))
  have hrun := Act.run_shows manager clock rounds config start
  have hanswers := (Act.consults_run manager clock rounds config start).2
  have hsubjects : AreOneLine config.subjects := (areOneLine_append.mp htexts).2
  have hplain : ArePlain (Act.run manager clock rounds config start).events := by
    apply Launchctl.arePlain_of_answers hanswers
    intro event hevent service hservice
    exact Launchctl.areOneLine_of_config htexts (hrun.mem_of_service? event hevent service hservice)
  have hlog : start.moment.IsSound := fun object hobject => by cases hobject
  exact (Act.run_writes manager clock rounds config hlog).plain hentry hsubjects hplain

theorem perform_writes (hread : CommandLine.read invocation.arguments = .ok line)
    (hpath : line.LogsTo files path) :
    invocation.InvocationLines line files path
      (invocation.perform children clock rounds files running time) := by
  refine ⟨?logs, ?configured, ?rejected⟩
  case logs =>
    obtain ⟨event, more, -, -, hfiles⟩ :=
      perform_replays children clock rounds running time hread hpath
    have hsound : (invocation.outset files path).IsSound := fun object hobject => by cases hobject
    exact ⟨_, hfiles.symm, Moment.logs_replay hsound _⟩
  case configured =>
    intro config hconfig hentry htexts
    rw [perform_of_configures children clock rounds running time hread hconfig]
    exact isOneLine_of_runWith children clock rounds running time hentry htexts
  case rejected =>
    intro reason hrejects
    obtain ⟨texts, hblames⟩ := hrejects.exists_blames
    rw [perform_of_rejects children clock rounds running time hread hrejects]
    have hfault : AreOneLine (Fault.configuration reason).texts ↔ IsOneLine reason := by
      show AreOneLine ["Configuration error: " ++ reason] ↔ IsOneLine reason
      simp +decide
    refine ⟨_, _, texts, rfl, hblames, ?_⟩
    rw [RunLog.isOneLine_fatal _ (by decide), areOneLine_cons, areOneLine_cons, hfault,
      hblames.isOneLine_iff]
    rfl

end Invocation

end Lines

/-- The lines that are written are one line of text each as long as the texts in them have no
newline, and split where one has: the names and paths of the configuration, the answers of the
manager, and what a reason quotes from a document without quotation marks. -/
theorem lines_split_at_newlines {σ κ τ : Type} (manager : Manager σ) (children : Children κ)
    (clock : Clock τ) (rounds : Nat) :
    (∀ (config : Config) (scene : Scene σ τ), scene.moment.IsSound →
      Act.RunLines config scene (Act.run manager clock rounds config scene)) ∧
    ∀ (invocation : Invocation) (files : FileSystem) (running : κ) (time : τ) (line : CommandLine)
      (path : Path), CommandLine.read invocation.arguments = .ok line → line.LogsTo files path →
        invocation.InvocationLines line files path
          (invocation.perform children clock rounds files running time) := by
  constructor
  · intro config scene hsound
    exact Act.run_writes manager clock rounds config hsound
  · intro invocation files running time line path hread hpath
    exact Invocation.perform_writes children clock rounds running time hread hpath

section Rehearsals

open Rehearsal

/-- A run and an invocation whose lines all stay in one line. -/
theorem lines_split_at_newlines_plain :
    let files := FileSystem.empty.makeDirectory (.ofString "/tmp")
    let manager := Launchctl.manager .standard Programs.children
    let scene := Invocation.scene files {} {} (.opened Config.defaultLogPath "salt-preinstall")
    let performed := Act.run manager Time.clock 1 .standard scene
    let missing := Path.ofString "/missing.json"
    let invocation : Invocation := ⟨none, [bytesOf "-c", missing.bytes]⟩
    let conclusion := invocation.perform Programs.children Time.clock 1 files {} {}
    scene.moment.IsSound ∧
      (∀ line ∈ linesOf performed.events, IsOneLine line.2) ∧
      CommandLine.read invocation.arguments = .ok { config := some missing } ∧
      CommandLine.LogsTo { config := some missing } files Config.defaultLogPath ∧
      ∃ stamp message texts, conclusion.events = [.trapped stamp message] ∧
        CommandLine.Blames { config := some missing } files
          ("Failed to load configuration from " ++ Text.quotedBytes missing.bytes ++ ": " ++
            Invocation.chain (.io (.os .noEntry))) texts ∧
        (IsOneLine message ↔ AreOneLine ("salt-preinstall" :: texts)) := by
  intro files manager scene performed missing invocation conclusion
  have hsound : scene.moment.IsSound := fun object hobject => by cases hobject
  obtain ⟨hruns, hinvocations⟩ := lines_split_at_newlines manager Programs.children Time.clock 1
  have hlines := hruns .standard scene hsound
  have hread : CommandLine.read invocation.arguments = .ok { config := some missing } := by
    with_unfolding_all rfl
  have hrejects : CommandLine.Rejects { config := some missing } files _ :=
    .notLoaded rfl (by with_unfolding_all rfl)
  have hpath := CommandLine.LogsTo.fallback hrejects
  have hwrites := hinvocations invocation files {} {} { config := some missing }
    Config.defaultLogPath hread hpath
  refine ⟨hsound, hlines.plain ?_ ?_ ?_, hread, hpath, hwrites.rejected _ hrejects⟩
  · decide
  · decide +kernel
  · decide +kernel

/-- A name with a newline in it is the name of a service that can be stopped, and its line is two
lines of text. -/
theorem exists_split_line :
    let files := FileSystem.empty.makeDirectory (.ofString "/tmp")
    let service : Service := { Service.ofRole "minion" with name := "salt\nminion" }
    let config : Config := { Config.standard with services := [service], targets := [] }
    let (files, programs) := Ground.install "/bin/launchctl" .scripted (files, {})
    let responses := [("list", [⟨[], .exits 0⟩, ⟨[], .exits 1⟩])]
    let manager := Launchctl.manager .standard Programs.children
    let scene := Invocation.scene files { programs with responses } ({} : Time)
      (.opened config.logPath "salt-preinstall")
    let performed := Act.run manager Time.clock 2 config scene
    config.validate = .ok () ∧ scene.files.content 1 = [] ∧
      performed.scene.log.handle = some 1 ∧ (linesOf performed.events).length = 4 ∧
      (performed.scene.files.content 1).count newline = 5 := by
  refine ⟨rfl, ?_, ?_, ?_, ?_⟩
  all_goals decide +kernel

end Rehearsals

end Decommission
