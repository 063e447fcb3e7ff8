import Decommission.Invocation
import Decommission.Proofs.Run.Running

/-!
# How invocations end

An invocation that cannot be understood, or whose configuration cannot be used, touches nothing but
its log.  Any other one performs a run, and its status says no more than whether the run failed.
-/

namespace Decommission

namespace CommandLine

variable (line : CommandLine) (files : FileSystem)

/-- The configuration that the command line is applied to. -/
inductive Loads : Config → Prop where
  | standard (hnone : line.config = none) : Loads .standard
  | file {path config} (hpath : line.config = some path)
      (hload : Config.load files path = .ok config) : Loads config

/-- The configuration of a run. -/
def Configures (config : Config) : Prop :=
  ∃ loaded, line.Loads files loaded ∧ line.apply loaded = config ∧ config.validate = .ok ()

/-- Why there is no configuration for a run. -/
inductive Rejects : String → Prop where
  | notLoaded {path fault} (hpath : line.config = some path)
      (hload : Config.load files path = .error fault) :
      Rejects ("Failed to load configuration from " ++ Text.quotedBytes path.bytes ++ ": " ++
        Invocation.chain fault)
  | invalid {loaded defect} (hloads : line.Loads files loaded)
      (hdefect : (line.apply loaded).validate = .error defect) :
      Rejects ("Invalid configuration: " ++ Invocation.chain (.configuration defect.message))

end CommandLine

/-- The fatal line of a configuration that cannot be used. -/
theorem RunLog.fatal_configuration (log : RunLog) (reason : String) :
    log.fatal .invoking (.configuration reason) =
      log.entryPoint ++ " caught error: 2 on line main command was: Configuration error: " ++
        reason := by
  have hcode : toString (Fault.configuration reason).code = "2" := rfl
  have horigin :
      (Option.getD (Fault.configuration reason).origin? .invoking).display = "main" := rfl
  have hcommand : (Fault.configuration reason).command = "Configuration error: " ++ reason := rfl
  have hliteral : " caught error: " ++ ("2" ++ (" on line " ++ ("main" ++ (" command was: " ++
      "Configuration error: ")))) =
        " caught error: 2 on line main command was: Configuration error: " := by decide
  rw [fatal, hcode, horigin, hcommand, ← hliteral]
  simp only [String.append_assoc]

namespace Invocation

open CommandLine

section Configurations

variable {line : CommandLine} {files : FileSystem}

theorem configuration_of_loads {loaded : Config} (hloads : line.Loads files loaded) :
    configuration line files =
      match (line.apply loaded).validate with
      | .ok () => .ok (line.apply loaded)
      | .error defect =>
          .error ("Invalid configuration: " ++ chain (.configuration defect.message)) := by
  unfold configuration
  cases hloads with
  | standard hnone =>
      rw [hnone]
      dsimp only [pure, Except.pure, bind, Except.bind]
      cases (line.apply Config.standard).validate <;> rfl
  | file hpath hload =>
      rw [hpath]
      dsimp only
      rw [hload]
      dsimp only [Except.mapError, bind, Except.bind]
      cases (line.apply loaded).validate <;> rfl

theorem configuration_of_not_loaded {path : Path} {fault : Fault} (hpath : line.config = some path)
    (hload : Config.load files path = .error fault) :
    configuration line files =
      .error ("Failed to load configuration from " ++ Text.quotedBytes path.bytes ++ ": " ++
        chain fault) := by
  unfold configuration
  rw [hpath]
  dsimp only
  rw [hload]
  rfl

theorem loads_or_not_loaded (line : CommandLine) (files : FileSystem) :
    (∃ loaded, line.Loads files loaded) ∨
      ∃ path fault, line.config = some path ∧ Config.load files path = .error fault := by
  cases hpath : line.config with
  | none => exact Or.inl ⟨_, .standard hpath⟩
  | some path =>
      cases hload : Config.load files path with
      | ok config => exact Or.inl ⟨config, .file hpath hload⟩
      | error fault => exact Or.inr ⟨path, fault, rfl, hload⟩

theorem configuration_eq_ok_iff {config : Config} :
    configuration line files = .ok config ↔ line.Configures files config := by
  constructor
  · intro hok
    rcases loads_or_not_loaded line files with ⟨loaded, hloads⟩ | ⟨path, fault, hpath, hload⟩
    · rw [configuration_of_loads hloads] at hok
      cases hvalid : (line.apply loaded).validate with
      | ok _ =>
          rw [hvalid] at hok
          cases hok
          exact ⟨loaded, hloads, rfl, hvalid⟩
      | error defect =>
          rw [hvalid] at hok
          cases hok
    · rw [configuration_of_not_loaded hpath hload] at hok
      cases hok
  · rintro ⟨loaded, hloads, rfl, hvalid⟩
    rw [configuration_of_loads hloads, hvalid]

theorem configuration_eq_error_iff {reason : String} :
    configuration line files = .error reason ↔ line.Rejects files reason := by
  constructor
  · intro herror
    rcases loads_or_not_loaded line files with ⟨loaded, hloads⟩ | ⟨path, fault, hpath, hload⟩
    · rw [configuration_of_loads hloads] at herror
      cases hvalid : (line.apply loaded).validate with
      | ok _ =>
          rw [hvalid] at herror
          cases herror
      | error defect =>
          rw [hvalid] at herror
          cases herror
          exact .invalid hloads hvalid
    · rw [configuration_of_not_loaded hpath hload] at herror
      cases herror
      exact .notLoaded hpath hload
  · intro hrejects
    cases hrejects with
    | notLoaded hpath hload => exact configuration_of_not_loaded hpath hload
    | invalid hloads hdefect => rw [configuration_of_loads hloads, hdefect]

theorem configures_or_rejects (line : CommandLine) (files : FileSystem) :
    (∃ config, line.Configures files config) ∨ ∃ reason, line.Rejects files reason := by
  cases hconfig : configuration line files with
  | ok config => exact Or.inl ⟨config, configuration_eq_ok_iff.mp hconfig⟩
  | error reason => exact Or.inr ⟨reason, configuration_eq_error_iff.mp hconfig⟩

end Configurations

variable {κ τ : Type} (children : Children κ) (clock : Clock τ) (rounds : Nat)
variable (invocation : Invocation) (files : FileSystem) (running : κ) (time : τ)

/-- The run that an invocation performs with its configuration, from a scene of its own. -/
def runWith (config : Config) : Performance (Launchctl.State κ) τ RunReport :=
  let log := RunLog.opened config.logPath (entryPoint invocation.program)
  Act.run (Launchctl.manager ⟨config.launchctl, config.domain⟩ children) clock rounds config
    (scene files running time log)

/-- The log that a fault of the configuration goes to. -/
def fallbackLog (line : CommandLine) : RunLog :=
  .opened (line.logFile.getD (.ofString "/tmp/preinstall.txt")) (entryPoint invocation.program)

/-- What an invocation does, by what it was told. -/
structure Concludes (conclusion : Conclusion κ τ) : Prop where
  /-- Without a command line nothing is done. -/
  refused : ∀ refusal, CommandLine.read invocation.arguments = .error refusal →
    conclusion.status = some (if refusal = .help ∨ refusal = .version then 0 else 2) ∧
      conclusion.events = [] ∧ conclusion.files = files ∧ conclusion.children = running ∧
      conclusion.clock = time
  /-- Without a configuration one fatal line is written, to the log that the command line names. -/
  rejected : ∀ line reason, CommandLine.read invocation.arguments = .ok line →
    line.Rejects files reason →
      let log := invocation.fallbackLog line
      let message := log.entryPoint ++
        " caught error: 2 on line main command was: Configuration error: " ++ reason
      let stamped := clock.stamp time
      conclusion.status = some 2 ∧ conclusion.events = [.trapped stamped.1 message] ∧
        conclusion.files = (log.write stamped.1 message files).2 ∧
        conclusion.children = running ∧ conclusion.clock = stamped.2
  /-- With a configuration the run begins, and all that is done is done by the run. -/
  configured : ∀ line config, CommandLine.read invocation.arguments = .ok line →
    line.Configures files config →
      let performed := invocation.runWith children clock rounds files running time config
      (∃ stamp more, performed.events = .said stamp (Act.opening config) :: more) ∧
        conclusion.events = performed.events ∧
        conclusion.files = performed.scene.files ∧
        conclusion.children = performed.scene.manager.children ∧
        conclusion.clock = performed.scene.clock ∧
        (∀ report, performed.ending = .done report → conclusion.status = some 0) ∧
        ∀ fault, performed.ending = .failed fault → conclusion.status = some 1
  status_eq_zero_iff : conclusion.status = some 0 ↔
    CommandLine.read invocation.arguments = .error .help ∨
      CommandLine.read invocation.arguments = .error .version ∨
      ∃ line config report, CommandLine.read invocation.arguments = .ok line ∧
        line.Configures files config ∧
        (invocation.runWith children clock rounds files running time config).ending = .done report
  status_eq_one_iff : conclusion.status = some 1 ↔
    ∃ line config fault, CommandLine.read invocation.arguments = .ok line ∧
      line.Configures files config ∧
      (invocation.runWith children clock rounds files running time config).ending = .failed fault
  status_eq_two_iff : conclusion.status = some 2 ↔
    (∃ refusal, CommandLine.read invocation.arguments = .error refusal ∧
      refusal ≠ .help ∧ refusal ≠ .version) ∨
    ∃ line reason, CommandLine.read invocation.arguments = .ok line ∧ line.Rejects files reason

/-! ## Statuses -/

section Statuses

variable {α : Type} {ending : Ending α}

/-- A run that a signal ends has a status of its own. -/
theorem lt_statusOf_halted {reason : Halt} {code : Int}
    (hstatus : statusOf (.halted reason : Ending α) = some code) : 128 < code := by
  cases reason with
  | exhausted => cases hstatus
  | signal signal =>
      cases hstatus
      cases signal <;> decide

theorem statusOf_eq_zero_iff : statusOf ending = some 0 ↔ ∃ value, ending = .done value := by
  cases ending with
  | done value => simp [statusOf]
  | failed fault => simp [statusOf]
  | halted reason => simpa using fun hstatus => absurd (lt_statusOf_halted hstatus) (by decide)

theorem statusOf_eq_one_iff : statusOf ending = some 1 ↔ ∃ fault, ending = .failed fault := by
  cases ending with
  | done value => simp [statusOf]
  | failed fault => simp [statusOf]
  | halted reason => simpa using fun hstatus => absurd (lt_statusOf_halted hstatus) (by decide)

theorem statusOf_ne_two : statusOf ending ≠ some 2 := by
  cases ending with
  | done value => simp [statusOf]
  | failed fault => simp [statusOf]
  | halted reason => exact fun hstatus => absurd (lt_statusOf_halted hstatus) (by decide)

theorem status_refusal (refusal : CommandLine.Refusal) :
    refusal.status = if refusal = .help ∨ refusal = .version then 0 else 2 := by
  cases refusal <;> rfl

end Statuses

/-! ## One invocation -/

section Perform

variable {invocation files}

theorem perform_of_refused {refusal : CommandLine.Refusal}
    (hread : CommandLine.read invocation.arguments = .error refusal) :
    let conclusion := invocation.perform children clock rounds files running time
    conclusion.status = some (if refusal = .help ∨ refusal = .version then 0 else 2) ∧
      conclusion.events = [] ∧ conclusion.files = files ∧ conclusion.children = running ∧
      conclusion.clock = time := by
  dsimp only
  rw [perform, hread, ← status_refusal]
  exact ⟨rfl, rfl, rfl, rfl, rfl⟩

variable {line : CommandLine} (hread : CommandLine.read invocation.arguments = .ok line)

include hread in
theorem perform_of_rejects {reason : String} (hrejects : line.Rejects files reason) :
    invocation.perform children clock rounds files running time =
      conclude (some 2) (mark ++ reason ++ "\n")
        (Act.trap (α := Unit) clock .invoking (.configuration reason)
          (scene files running time (invocation.fallbackLog line))) := by
  rw [perform, hread]
  dsimp only
  rw [carryOut, configuration_eq_error_iff.mpr hrejects]
  rfl

include hread in
theorem perform_of_configures {config : Config} (hconfig : line.Configures files config) :
    let performed := invocation.runWith children clock rounds files running time config
    invocation.perform children clock rounds files running time =
      conclude (statusOf performed.ending) (reportOf config.logPath performed.ending)
        performed := by
  dsimp only
  rw [perform, hread]
  dsimp only
  rw [carryOut, configuration_eq_ok_iff.mpr hconfig]
  rfl

include hread in
theorem status_of_rejects {reason : String} (hrejects : line.Rejects files reason) :
    (invocation.perform children clock rounds files running time).status = some 2 := by
  rw [perform_of_rejects children clock rounds running time hread hrejects]
  rfl

include hread in
theorem status_of_configures {config : Config} (hconfig : line.Configures files config) :
    (invocation.perform children clock rounds files running time).status =
      statusOf (invocation.runWith children clock rounds files running time config).ending := by
  rw [perform_of_configures children clock rounds running time hread hconfig]
  rfl

end Perform

/-- The run of an invocation begins with its first line. -/
theorem exists_opening_of_runWith (config : Config) :
    ∃ stamp more, (invocation.runWith children clock rounds files running time config).events =
      .said stamp (Act.opening config) :: more := by
  have hrun := Act.run_shows (Launchctl.manager ⟨config.launchctl, config.domain⟩ children) clock
    rounds config
    (scene files running time (.opened config.logPath (entryPoint invocation.program)))
  unfold runWith
  dsimp only at hrun ⊢
  generalize Act.run (Launchctl.manager ⟨config.launchctl, config.domain⟩ children) clock rounds
    config (scene files running time (.opened config.logPath (entryPoint invocation.program))) =
      performed at hrun ⊢
  obtain ⟨ending, events, last⟩ := performed
  generalize last.progress = progress at hrun
  cases hrun with
  | refused hrefused => exact absurd hrefused (Progress.not_refused_of_start rfl)
  | notStopped | notCleaned | complete => exact ⟨_, _, rfl⟩

/-- An invocation is refused, has no configuration, or performs a run. -/
theorem status_cases :
    let conclusion := invocation.perform children clock rounds files running time
    (∃ refusal, CommandLine.read invocation.arguments = .error refusal ∧
      conclusion.status = some (if refusal = .help ∨ refusal = .version then 0 else 2)) ∨
    (∃ line reason, CommandLine.read invocation.arguments = .ok line ∧
      line.Rejects files reason ∧ conclusion.status = some 2) ∨
    ∃ line config, CommandLine.read invocation.arguments = .ok line ∧
      line.Configures files config ∧ conclusion.status =
        statusOf (invocation.runWith children clock rounds files running time config).ending := by
  dsimp only
  cases hread : CommandLine.read invocation.arguments with
  | error refusal =>
      exact Or.inl ⟨refusal, rfl, (perform_of_refused children clock rounds running time hread).1⟩
  | ok line =>
      refine Or.inr ?_
      rcases configures_or_rejects line files with ⟨config, hconfig⟩ | ⟨reason, hrejects⟩
      · exact Or.inr ⟨line, config, rfl, hconfig,
          status_of_configures children clock rounds running time hread hconfig⟩
      · exact Or.inl ⟨line, reason, rfl, hrejects,
          status_of_rejects children clock rounds running time hread hrejects⟩

/-- An invocation that is refused changes nothing, one without a configuration writes one fatal line,
and any other one does what its run does.  The status tells these apart, and tells nothing else. -/
theorem perform_concludes :
    invocation.Concludes children clock rounds files running time
      (invocation.perform children clock rounds files running time) := by
  have hcases := invocation.status_cases children clock rounds files running time
  dsimp only at hcases
  refine ⟨?refused, ?rejected, ?configured, ?zero, ?one, ?two⟩
  case refused =>
    intro refusal hread
    exact perform_of_refused children clock rounds running time hread
  case rejected =>
    intro line reason hread hrejects
    dsimp only
    rw [perform_of_rejects children clock rounds running time hread hrejects,
      ← RunLog.fatal_configuration]
    exact ⟨rfl, rfl, rfl, rfl, rfl⟩
  case configured =>
    intro line config hread hconfig
    have hopening :=
      invocation.exists_opening_of_runWith children clock rounds files running time config
    dsimp only
    rw [perform_of_configures children clock rounds running time hread hconfig]
    exact ⟨hopening, rfl, rfl, rfl, rfl,
      fun report hdone => statusOf_eq_zero_iff.mpr ⟨report, hdone⟩,
      fun fault hfailed => statusOf_eq_one_iff.mpr ⟨fault, hfailed⟩⟩
  case zero =>
    constructor
    · intro hzero
      rw [hzero] at hcases
      rcases hcases with ⟨refusal, hread, hstatus⟩ | ⟨_, _, _, _, hstatus⟩ |
        ⟨line, config, hread, hconfig, hstatus⟩
      · cases refusal <;> simp_all
      · cases hstatus
      · obtain ⟨report, hdone⟩ := statusOf_eq_zero_iff.mp hstatus.symm
        exact Or.inr (Or.inr ⟨line, config, report, hread, hconfig, hdone⟩)
    · rintro (hread | hread | ⟨line, config, report, hread, hconfig, hdone⟩)
      · exact (perform_of_refused children clock rounds running time hread).1
      · exact (perform_of_refused children clock rounds running time hread).1
      · rw [status_of_configures children clock rounds running time hread hconfig, hdone]
        rfl
  case one =>
    constructor
    · intro hone
      rw [hone] at hcases
      rcases hcases with ⟨refusal, hread, hstatus⟩ | ⟨_, _, _, _, hstatus⟩ |
        ⟨line, config, hread, hconfig, hstatus⟩
      · split at hstatus <;> cases hstatus
      · cases hstatus
      · obtain ⟨fault, hfailed⟩ := statusOf_eq_one_iff.mp hstatus.symm
        exact ⟨line, config, fault, hread, hconfig, hfailed⟩
    · rintro ⟨line, config, fault, hread, hconfig, hfailed⟩
      rw [status_of_configures children clock rounds running time hread hconfig, hfailed]
      rfl
  case two =>
    constructor
    · intro htwo
      rw [htwo] at hcases
      rcases hcases with ⟨refusal, hread, hstatus⟩ | ⟨line, reason, hread, hrejects, -⟩ |
        ⟨_, _, _, _, hstatus⟩
      · refine Or.inl ⟨refusal, hread, ?_⟩
        rw [← not_or]
        intro hanswer
        rw [if_pos hanswer] at hstatus
        cases hstatus
      · exact Or.inr ⟨line, reason, hread, hrejects⟩
      · exact absurd hstatus.symm statusOf_ne_two
    · rintro (⟨refusal, hread, hhelp, hversion⟩ | ⟨line, reason, hread, hrejects⟩)
      · rw [(perform_of_refused children clock rounds running time hread).1,
          if_neg (by simp [hhelp, hversion])]
      · exact status_of_rejects children clock rounds running time hread hrejects

end Invocation

end Decommission
