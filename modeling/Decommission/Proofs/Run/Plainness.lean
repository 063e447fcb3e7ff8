import Decommission.Config.Basic
import Decommission.Control.Launchctl
import Decommission.Proofs.Run.Answers
import Decommission.Proofs.Run.Events
import Decommission.Proofs.Run.Wording

/-!
# Plain runs

A fatal line shows a command, which comes from an answer of the manager or names a target.  If none
of the answers has a newline in it, and neither has a name of a service or a path of a target, no
line of the run has one.  The answers of the control program consist of what it is called with.
-/

namespace Decommission

/-! ## Answers -/

/-- The texts in the answer to a request. -/
def answerTexts : Except Fault ControlOutput → List String
  | .ok output => [output.command]
  | .error fault => fault.texts

/-- The texts in what the manager answers. -/
def Event.answerTexts : Event → List String
  | .listed _ (.error fault) => fault.texts
  | .disabled _ answer | .bootedOut _ answer => Decommission.answerTexts answer
  | _ => []

/-- No answer has a newline in it. -/
def ArePlain (events : List Event) : Prop := ∀ event ∈ events, AreOneLine event.answerTexts

instance (events : List Event) : Decidable (ArePlain events) :=
  inferInstanceAs (Decidable (∀ event ∈ events, AreOneLine event.answerTexts))

/-- The fault, if there is one, has no newline in its texts. -/
def Ending.IsPlain {α : Type} : Ending α → Prop
  | .failed fault => AreOneLine fault.texts
  | .done _ | .halted _ => True

namespace Config

/-- The texts of a configuration that stand in lines of their own accord. -/
def subjects (config : Config) : List String :=
  config.services.map Service.name ++ config.targets.map fun target => target.path.display

/-- The texts of a configuration that stand in lines or in commands. -/
def texts (config : Config) : List String :=
  config.launchctl.display :: config.domain ::
    (config.services.flatMap fun service => [service.label, service.definition.display]) ++
      config.subjects

end Config

section Plain

variable {α β : Type} {events more : List Event}

theorem arePlain_append : ArePlain (events ++ more) ↔ ArePlain events ∧ ArePlain more :=
  List.forall_mem_append

theorem arePlain_cons {event : Event} :
    ArePlain (event :: events) ↔ AreOneLine event.answerTexts ∧ ArePlain events :=
  List.forall_mem_cons

theorem Ending.IsPlain.of_cuts {ending : Ending α} {other : Ending β} (hplain : ending.IsPlain)
    (hcut : ending.Cuts other) : other.IsPlain := by
  cases hcut with
  | failed fault => exact hplain
  | halted reason => exact trivial

theorem Ending.IsPlain.of_inTurn {ι : Type} {shape : ι → List Event → Ending α → Prop}
    {result : ι → α → β} {items : List ι} {ending : Ending (List β)}
    (hturn : InTurn shape result items events ending) (hplain : ArePlain events)
    (hshape : ∀ item ∈ items, ∀ events ending, shape item events ending → ArePlain events →
      ending.IsPlain) : ending.IsPlain := by
  induction hturn with
  | nil | done => exact trivial
  | cut hitem hcut => exact (hshape _ (by simp) _ _ hitem hplain).of_cuts hcut
  | later hitem hrest hcut ih =>
      have hmore := (arePlain_append.mp hplain).2
      exact (ih hmore fun item hmem => hshape item (by simp [hmem])).of_cuts hcut

theorem Denied.isPlain {answer : Except Fault ControlOutput} {fault : Fault}
    (hdenied : Denied answer fault) (hanswer : AreOneLine (answerTexts answer)) :
    AreOneLine fault.texts := by
  cases hdenied with
  | error fault => exact hanswer
  | code hcode => exact areOneLine_cons.mpr ⟨by decide, hanswer⟩

end Plain

section Shapes

variable {log : RunLog} {policy : StopPolicy} {config : Config} {service : Service}
variable {events : List Event}

theorem Requesting.isPlain {races : Count} {ending : Ending (Count × String)}
    (hrequest : Requesting log service races events ending) (hplain : ArePlain events) :
    ending.IsPlain := by
  cases hrequest with
  | notDisabled hdenied => exact hdenied.isPlain (arePlain_cons.mp hplain).1
  | notBootedOut hdisabled hdenied =>
      have hmore := (arePlain_cons.mp hplain).2
      exact hdenied.isPlain (arePlain_cons.mp hmore).1
  | accepted => exact trivial

/-- The last command comes from an answer. -/
theorem Requesting.isOneLine_command {races more : Count} {command : String}
    (hrequest : Requesting log service races events (.done (more, command)))
    (hplain : ArePlain events) : IsOneLine command := by
  cases hrequest with
  | accepted =>
      have hmore := (arePlain_cons.mp hplain).2
      exact (areOneLine_cons.mp (arePlain_cons.mp hmore).1).1

theorem Stopping.isPlain {report : StopReport} {last : String} {ending : Ending StopReport}
    (hstop : Stopping log policy service report last events ending) (hlast : IsOneLine last)
    (hplain : ArePlain events) : ending.IsPlain := by
  induction hstop with
  | absent | rehearsed | interrupted | exhausted => exact trivial
  | unknown => exact (arePlain_cons.mp hplain).1
  | late => exact areOneLine_cons.mpr ⟨by decide, areOneLine_cons.mpr ⟨hlast, areOneLine_nil⟩⟩
  | denied hdry hrequest =>
      have hevents := (arePlain_cons.mp (arePlain_cons.mp hplain).2).2
      exact hrequest.isPlain hevents
  | round hdry hrequest hrest ih =>
      have hlater := (arePlain_cons.mp (arePlain_cons.mp hplain).2).2
      obtain ⟨hevents, hpause⟩ := arePlain_append.mp hlater
      have hmore := (arePlain_cons.mp (arePlain_cons.mp hpause).2).2
      exact ih (hrequest.isOneLine_command hevents) hmore

theorem StoppingAll.isPlain {services : List Service}
    {ending : Ending (List (String × StopReport))}
    (hstops : StoppingAll log policy services events ending) (hplain : ArePlain events) :
    ending.IsPlain :=
  .of_inTurn hstops hplain fun _ _ _ _ hstop hevents => hstop.isPlain (by decide) hevents

theorem Cleaning.isPlain {dryRun : Bool} {target : Target} {ending : Ending CleanupOutcome}
    (hclean : Cleaning log dryRun target events ending) (hpath : IsOneLine target.path.display) :
    ending.IsPlain := by
  cases hclean with
  | absent | rehearsed | removed => exact trivial
  | stuck =>
      have hremoval : IsOneLine target.kind.removal := by cases target.kind <;> decide
      have hcommand : IsOneLine target.command := by
        simp +decide [Target.command, hremoval, hpath]
      exact areOneLine_cons.mpr ⟨by decide, areOneLine_cons.mpr ⟨hcommand, areOneLine_nil⟩⟩

theorem Refusal.isOneLine_message (refusal : Refusal) : IsOneLine refusal.message := by
  have hstage (stage : Stage) : IsOneLine stage.description := by cases stage <;> decide
  cases refusal with
  | terminal source =>
      show IsOneLine ("Cannot transition from terminal state " ++ source.description)
      simp +decide [hstage]
  | outOfOrder source target =>
      show IsOneLine ("Cannot move from " ++ source.description ++ " to " ++ target.description ++
        " (stages run strictly in order)")
      simp +decide [hstage]

theorem Running.isPlain {start last : Progress} {ending : Ending RunReport}
    (hrun : Running log config start events ending last) (hplain : ArePlain events)
    (hsubjects : AreOneLine config.subjects) : ending.IsPlain := by
  cases hrun with
  | @refused refusal =>
      have hmessage : IsOneLine (Fault.transition refusal).message :=
        isOneLine_append.mpr ⟨by decide, refusal.isOneLine_message⟩
      exact areOneLine_cons.mpr ⟨hmessage, areOneLine_nil⟩
  | notStopped _ hstops hcut =>
      exact (hstops.isPlain (arePlain_cons.mp hplain).2).of_cuts hcut
  | notCleaned _ hstops hcleans hcut =>
      have hpaths : ∀ target ∈ config.targets, IsOneLine target.path.display := by
        intro target htarget
        apply hsubjects
        exact List.mem_append_right _ (List.mem_map_of_mem htarget)
      have hmore := (arePlain_append.mp hplain).2
      have hcleaned := Ending.IsPlain.of_inTurn hcleans hmore
        fun target htarget _ _ hclean _ => hclean.isPlain (hpaths target htarget)
      exact hcleaned.of_cuts hcut
  | complete => exact trivial

/-- Of a plain run every line stays in one line. -/
theorem Running.isOneLine_of_line {start last : Progress} {ending : Ending RunReport}
    (hrun : Running log config start events ending last) (hentry : IsOneLine log.entryPoint)
    (hsubjects : AreOneLine config.subjects) (hplain : ArePlain events) {event : Event}
    (hevent : event ∈ events) {stamp : Stamp} {message : String}
    (hline : event.line? = some (stamp, message)) : IsOneLine message := by
  have hending := hrun.isPlain hplain hsubjects
  obtain ⟨texts, hworded⟩ := hrun.areWorded event hevent (by simp [hline])
  rw [hworded.isOneLine_iff hline]
  cases hworded with
  | trapped hfailed hcaller =>
      rw [hfailed] at hending
      exact areOneLine_cons.mpr ⟨hentry, hending⟩
  | said hsentence =>
      cases hsentence with
      | opening | stopped | removed | completed => exact areOneLine_nil
      | wouldStop hservice | stopping hservice =>
          have hname := hsubjects _ (List.mem_append_left _ (List.mem_map_of_mem hservice))
          exact areOneLine_cons.mpr ⟨hname, areOneLine_nil⟩
      | wouldRemove htarget | removing htarget =>
          have hpath := hsubjects _ (List.mem_append_right _ (List.mem_map_of_mem htarget))
          exact areOneLine_cons.mpr ⟨hpath, areOneLine_nil⟩

/-! ## The services asked about -/

theorem StoppingAll.mem_of_service? {services : List Service}
    {ending : Ending (List (String × StopReport))}
    (hstops : StoppingAll log policy services events ending) :
    ∀ event ∈ events, ∀ service, event.service? = some service → service ∈ services := by
  refine InTurn.forall_events hstops fun asked hasked _ _ hstop event hevent service hservice => ?_
  rw [(hstop.concerns event hevent).2 service hservice]
  exact hasked

/-- The manager is asked about services of the configuration. -/
theorem Running.mem_of_service? {start last : Progress} {ending : Ending RunReport}
    (hrun : Running log config start events ending last) :
    ∀ event ∈ events, ∀ service, event.service? = some service → service ∈ config.services := by
  have hstopped {stamp : Stamp} {events : List Event} {ending : Ending (List (String × StopReport))}
      (hstops : StoppingAll log config.stopPolicy config.services events ending) :
      ∀ event ∈ .said stamp (Act.opening config) :: events, ∀ service,
        event.service? = some service → service ∈ config.services :=
    List.forall_mem_cons.mpr ⟨by simp [Event.service?], hstops.mem_of_service?⟩
  have hcleaned {events : List Event} {ending : Ending (List CleanupOutcome)}
      (hcleans : CleaningAll log config.dryRun config.targets events ending) :
      ∀ event ∈ events, ∀ service, event.service? = some service → service ∈ config.services := by
    intro event hevent service hservice
    rw [hcleans.service?_eq_none event hevent] at hservice
    cases hservice
  cases hrun with
  | refused => simp [Event.service?]
  | notStopped _ hstops hcut => exact hstopped hstops
  | notCleaned _ hstops hcleans hcut =>
      exact List.forall_mem_append.mpr ⟨hstopped hstops, hcleaned hcleans⟩
  | complete _ hstops hcleans =>
      refine List.forall_mem_append.mpr ⟨?_, by simp [Event.service?]⟩
      exact List.forall_mem_append.mpr ⟨hstopped hstops, hcleaned hcleans⟩

end Shapes

/-! ## Commands -/

namespace Launchctl

variable {κ : Type} {launchctl : Launchctl} {children : Children κ}

/-- The texts of which the commands for a service consist. -/
def texts (launchctl : Launchctl) (service : Service) : List String :=
  [launchctl.binary.display, launchctl.domain, service.label, service.definition.display]

theorem areOneLine_of_config {config : Config} (htexts : AreOneLine config.texts)
    {service : Service} (hservice : service ∈ config.services) :
    AreOneLine (texts ⟨config.launchctl, config.domain⟩ service) := by
  obtain ⟨hbefore, -⟩ := areOneLine_append.mp htexts
  obtain ⟨hbinary, hmore⟩ := areOneLine_cons.mp hbefore
  obtain ⟨hdomain, hservices⟩ := areOneLine_cons.mp hmore
  refine areOneLine_cons.mpr ⟨hbinary, areOneLine_cons.mpr ⟨hdomain, ?_⟩⟩
  exact fun text htext => hservices text (List.mem_flatMap_of_mem hservice htext)

/-- The answer to a call shows what was called. -/
theorem areOneLine_call {arguments : List String} (hbinary : IsOneLine launchctl.binary.display)
    (harguments : AreOneLine arguments) (children : Children κ) (files : FileSystem)
    (state : State κ) :
    AreOneLine (answerTexts (launchctl.call children arguments files state).1) := by
  have hcommand : IsOneLine (launchctl.commandLine arguments) :=
    (isOneLine_intercalate (by decide) _).mpr (areOneLine_cons.mpr ⟨hbinary, harguments⟩)
  have hspawn (cause : IoError) :
      AreOneLine (Fault.spawn (launchctl.commandLine arguments) cause .control).texts :=
    areOneLine_cons.mpr ⟨by decide, areOneLine_cons.mpr ⟨hcommand, areOneLine_nil⟩⟩
  unfold call
  dsimp only
  split
  · exact hspawn _
  · split
    · exact hspawn _
    · exact areOneLine_cons.mpr ⟨hcommand, areOneLine_nil⟩

theorem areOneLine_arguments {service : Service} (hservice : AreOneLine (launchctl.texts service)) :
    AreOneLine (listArguments service) ∧ AreOneLine (launchctl.disableArguments service) ∧
      AreOneLine (launchctl.bootOutArguments service) := by
  simp only [texts, areOneLine_cons] at hservice
  simp +decide [listArguments, disableArguments, bootOutArguments, hservice]

theorem areOneLine_answer {situation : Situation (State κ)} {event : Event}
    (hgives : situation.Gives (launchctl.manager children) event)
    (hservices : ∀ service, event.service? = some service → AreOneLine (launchctl.texts service)) :
    AreOneLine event.answerTexts := by
  cases event with
  | listed service answer =>
      have htexts := hservices service rfl
      obtain ⟨harguments, -, -⟩ := areOneLine_arguments htexts
      have hcall := areOneLine_call (areOneLine_cons.mp htexts).1 harguments children
        situation.moment.files situation.state
      have hanswer : answer = (launchctl.call children (listArguments service)
          situation.moment.files situation.state).1.map fun output => output.exitCode == some 0 :=
        hgives
      cases hresult : (launchctl.call children (listArguments service) situation.moment.files
          situation.state).1 with
      | ok output =>
          rw [hanswer, hresult]
          exact areOneLine_nil
      | error fault =>
          rw [hresult] at hanswer hcall
          rw [hanswer]
          exact hcall
  | disabled service answer =>
      have htexts := hservices service rfl
      obtain ⟨-, harguments, -⟩ := areOneLine_arguments htexts
      rw [show answer = _ from hgives]
      exact areOneLine_call (areOneLine_cons.mp htexts).1 harguments _ _ _
  | bootedOut service answer =>
      have htexts := hservices service rfl
      obtain ⟨-, -, harguments⟩ := areOneLine_arguments htexts
      rw [show answer = _ from hgives]
      exact areOneLine_call (areOneLine_cons.mp htexts).1 harguments _ _ _
  | paused | said | trapped | tested | removed => exact areOneLine_nil

theorem arePlain_of_answers {situation : Situation (State κ)} {events : List Event}
    (hanswers : situation.Answers (launchctl.manager children) events)
    (hservices : ∀ event ∈ events, ∀ service, event.service? = some service →
      AreOneLine (launchctl.texts service)) : ArePlain events := by
  induction events generalizing situation with
  | nil => simp [ArePlain]
  | cons event rest ih =>
      obtain ⟨hgives, hmore⟩ := hanswers
      obtain ⟨hservice, hrest⟩ := List.forall_mem_cons.mp hservices
      exact arePlain_cons.mpr ⟨areOneLine_answer hgives hservice, ih hmore hrest⟩

end Launchctl

end Decommission
