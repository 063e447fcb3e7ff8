import Decommission.Proofs.Log.Logbook
import Decommission.Proofs.Run.Fatal
import Decommission.Proofs.Text.OneLine

/-!
# The wording of lines

The sentences of the run log are fixed but for the names of services, the paths of targets, and what
a fatal line tells of its fault.  A sentence stays in one line exactly when these texts do.
-/

namespace Decommission

/-- The texts stay in one line, each of them. -/
def AreOneLine (texts : List String) : Prop := ∀ text ∈ texts, IsOneLine text

instance (texts : List String) : Decidable (AreOneLine texts) :=
  inferInstanceAs (Decidable (∀ text ∈ texts, IsOneLine text))

@[simp]
theorem areOneLine_nil : AreOneLine [] := by
  simp [AreOneLine]

@[simp]
theorem areOneLine_cons {text : String} {texts : List String} :
    AreOneLine (text :: texts) ↔ IsOneLine text ∧ AreOneLine texts := by
  simp [AreOneLine]

theorem areOneLine_append {texts more : List String} :
    AreOneLine (texts ++ more) ↔ AreOneLine texts ∧ AreOneLine more :=
  List.forall_mem_append

theorem isOneLine_intercalate {separator : String} (hseparator : IsOneLine separator)
    (texts : List String) : IsOneLine (separator.intercalate texts) ↔ AreOneLine texts := by
  induction texts with
  | nil => simp [IsOneLine]
  | cons text rest ih =>
      cases rest with
      | nil => simp
      | cons next rest =>
          rw [String.intercalate_cons_cons, isOneLine_append, isOneLine_append, ih,
            areOneLine_cons]
          simp [hseparator]

/-! ## Sentences -/

/-- The texts in a fatal line that its fault brings in. -/
def Fault.texts (fault : Fault) : List String :=
  fault.origin?.toList.map Origin.display ++ [fault.command]

section Sentences

variable (log : RunLog) (config : Config)

/-- What a line of a run says that is no fatal line, and the texts in it that are not the program's
own. -/
inductive Sentence : String → List String → Prop where
  | opening : Sentence (Act.opening config) []
  | wouldStop {service} (hservice : service ∈ config.services) :
      Sentence ("[DRY RUN] Would stop " ++ service.name) [service.name]
  | stopping {service} (hservice : service ∈ config.services) :
      Sentence ("Stopping " ++ service.name ++ "...") [service.name]
  | stopped : Sentence "Stopped Successfully" []
  | wouldRemove {target} (htarget : target ∈ config.targets) :
      Sentence ("[DRY RUN] Would remove " ++ target.path.display) [target.path.display]
  | removing {target} (htarget : target ∈ config.targets) :
      Sentence ("Removing " ++ target.path.display) [target.path.display]
  | removed : Sentence "Removed Successfully" []
  | completed : Sentence "Preinstall Completed Successfully" []

/-- What an event writes to the run log in a run that ends like this, and the texts in it that are
not the program's own. -/
inductive Worded {α : Type} (ending : Ending α) : Event → List String → Prop where
  | said {stamp message texts} (hsentence : Sentence config message texts) :
      Worded ending (.said stamp message) texts
  | trapped {stamp caller fault} (hending : ending = .failed fault)
      (hcaller : IsOneLine caller.display) :
      Worded ending (.trapped stamp (log.fatal caller fault)) (log.entryPoint :: fault.texts)

end Sentences

section Sentences

variable {log : RunLog} {config : Config} {message : String} {texts : List String}

theorem Sentence.isOneLine_iff (hsentence : Sentence config message texts) :
    IsOneLine message ↔ AreOneLine texts := by
  cases hsentence with
  | opening =>
      rw [Act.opening]
      split <;> simp [IsOneLine]
  | wouldStop | stopping | stopped | wouldRemove | removing | removed | completed =>
      simp [IsOneLine]

theorem RunLog.isOneLine_fatal (log : RunLog) {caller : Origin}
    (hcaller : IsOneLine caller.display) (fault : Fault) :
    IsOneLine (log.fatal caller fault) ↔ AreOneLine (log.entryPoint :: fault.texts) := by
  cases horigin : fault.origin? with
  | none => simp +decide [fatal, Fault.texts, horigin, hcaller]
  | some origin => simp +decide [fatal, Fault.texts, horigin, and_assoc]

theorem Worded.isOneLine_iff {α : Type} {ending : Ending α} {event : Event}
    (hworded : Worded log config ending event texts) {stamp : Stamp}
    (hline : event.line? = some (stamp, message)) : IsOneLine message ↔ AreOneLine texts := by
  cases hworded with
  | said hsentence =>
      cases hline
      exact hsentence.isOneLine_iff
  | trapped hending hcaller =>
      cases hline
      exact log.isOneLine_fatal hcaller _

/-- The wording of an ending that a later part takes over is the wording of that part. -/
theorem Worded.of_cuts {α β : Type} {ending : Ending α} {other : Ending β} {event : Event}
    (hworded : Worded log config ending event texts) (hcut : ending.Cuts other) :
    Worded log config other event texts := by
  cases hworded with
  | said hsentence => exact .said hsentence
  | trapped hending hcaller =>
      subst hending
      cases hcut
      exact .trapped rfl hcaller

end Sentences

/-! ## From act to act -/

/-- Every line has its wording. -/
def AreWorded {α : Type} (log : RunLog) (config : Config) (ending : Ending α)
    (events : List Event) : Prop :=
  ∀ event ∈ events, event.line? ≠ none → ∃ texts, Worded log config ending event texts

section Acts

variable {α β : Type} {log : RunLog} {config : Config} {events more : List Event}
variable {ending : Ending α} {other : Ending β}

theorem AreWorded.append (hevents : AreWorded log config ending events)
    (hmore : AreWorded log config ending more) : AreWorded log config ending (events ++ more) :=
  List.forall_mem_append.mpr ⟨hevents, hmore⟩

theorem AreWorded.of_cuts (hworded : AreWorded log config ending events)
    (hcut : ending.Cuts other) : AreWorded log config other events := by
  intro event hevent hline
  obtain ⟨texts, htexts⟩ := hworded event hevent hline
  exact ⟨texts, htexts.of_cuts hcut⟩

/-- An act that has a result writes no fatal line. -/
theorem AreWorded.of_done {value : α} (hworded : AreWorded log config (.done value) events) :
    AreWorded log config other events := by
  intro event hevent hline
  obtain ⟨texts, htexts⟩ := hworded event hevent hline
  cases htexts with
  | said hsentence => exact ⟨texts, .said hsentence⟩
  | trapped hending => cases hending

@[simp]
theorem areWorded_nil : AreWorded log config ending [] := by
  simp [AreWorded]

@[simp]
theorem areWorded_cons {event : Event} : AreWorded log config ending (event :: events) ↔
    (event.line? ≠ none → ∃ texts, Worded log config ending event texts) ∧
      AreWorded log config ending events := by
  simp [AreWorded]

theorem AreWorded.said {stamp : Stamp} {message : String} {texts : List String}
    (hsentence : Sentence config message texts) (hevents : AreWorded log config ending events) :
    AreWorded log config ending (.said stamp message :: events) :=
  areWorded_cons.mpr ⟨fun _ => ⟨texts, .said hsentence⟩, hevents⟩

/-- The fatal line of the fault that an act fails with. -/
theorem areWorded_trapped {stamp : Stamp} {caller : Origin} {fault : Fault}
    (hcaller : IsOneLine caller.display) :
    AreWorded log config (.failed fault : Ending α)
      [.trapped stamp (log.fatal caller fault)] := by
  simpa [AreWorded] using fun _ => ⟨_, .trapped rfl hcaller⟩

/-- An event that writes nothing needs no wording. -/
theorem AreWorded.quiet {event : Event} (hline : event.line? = none)
    (hevents : AreWorded log config ending events) :
    AreWorded log config ending (event :: events) :=
  areWorded_cons.mpr ⟨fun hsome => absurd hline hsome, hevents⟩

theorem AreWorded.of_inTurn {ι : Type} {shape : ι → List Event → Ending α → Prop}
    {result : ι → α → β} {items : List ι} {ending : Ending (List β)}
    (hturn : InTurn shape result items events ending)
    (hshape : ∀ item ∈ items, ∀ events ending, shape item events ending →
      AreWorded log config ending events) : AreWorded log config ending events := by
  induction hturn with
  | nil => exact areWorded_nil
  | done hitem hrest ih =>
      have hrest := ih fun item hmem => hshape item (by simp [hmem])
      exact (hshape _ (by simp) _ _ hitem).of_done.append hrest.of_done
  | cut hitem hcut => exact (hshape _ (by simp) _ _ hitem).of_cuts hcut
  | later hitem hrest hcut ih =>
      have hrest := ih fun item hmem => hshape item (by simp [hmem])
      exact (hshape _ (by simp) _ _ hitem).of_done.append (hrest.of_cuts hcut)

end Acts

section Shapes

variable {log : RunLog} {policy : StopPolicy} {config : Config} {service : Service}
variable {events : List Event}

theorem Requesting.areWorded {races : Count} {ending : Ending (Count × String)}
    (hrequest : Requesting log service races events ending) :
    AreWorded log config ending events := by
  cases hrequest with
  | notDisabled => exact .quiet rfl (areWorded_trapped (by decide))
  | notBootedOut => exact .quiet rfl (.quiet rfl (areWorded_trapped (by decide)))
  | accepted => exact .quiet rfl (.quiet rfl areWorded_nil)

theorem Stopping.areWorded (hservice : service ∈ config.services) {report : StopReport}
    {last : String} {ending : Ending StopReport}
    (hstop : Stopping log policy service report last events ending) :
    AreWorded log config ending events := by
  induction hstop with
  | absent => exact .quiet rfl areWorded_nil
  | unknown => exact .quiet rfl (areWorded_trapped (by decide))
  | rehearsed => exact .quiet rfl (.said (.wouldStop hservice) areWorded_nil)
  | late => exact .quiet rfl (areWorded_trapped (by decide))
  | denied hdry hrequest =>
      exact .quiet rfl (.said (.stopping hservice) (hrequest.areWorded.of_cuts (.failed _)))
  | interrupted hdry hrequest =>
      exact .quiet rfl (.said (.stopping hservice)
        (.append hrequest.areWorded.of_done (.quiet rfl areWorded_nil)))
  | round hdry hrequest hrest ih =>
      exact .quiet rfl (.said (.stopping hservice)
        (.append hrequest.areWorded.of_done (.quiet rfl (.said .stopped ih))))
  | exhausted => exact areWorded_nil

theorem StoppingAll.areWorded {ending : Ending (List (String × StopReport))}
    (hstops : StoppingAll log policy config.services events ending) :
    AreWorded log config ending events :=
  .of_inTurn hstops fun _ hservice _ _ hstop => hstop.areWorded hservice

theorem Cleaning.areWorded {dryRun : Bool} {target : Target} (htarget : target ∈ config.targets)
    {ending : Ending CleanupOutcome} (hclean : Cleaning log dryRun target events ending) :
    AreWorded log config ending events := by
  cases hclean with
  | absent => exact .quiet rfl areWorded_nil
  | rehearsed => exact .quiet rfl (.said (.wouldRemove htarget) areWorded_nil)
  | removed =>
      exact .quiet rfl (.said (.removing htarget) (.quiet rfl (.said .removed areWorded_nil)))
  | stuck => exact .quiet rfl (.said (.removing htarget) (.quiet rfl (areWorded_trapped (by decide))))

theorem CleaningAll.areWorded {dryRun : Bool} {ending : Ending (List CleanupOutcome)}
    (hcleans : CleaningAll log dryRun config.targets events ending) :
    AreWorded log config ending events :=
  .of_inTurn hcleans fun _ htarget _ _ hclean => hclean.areWorded htarget

theorem Running.areWorded {start last : Progress} {ending : Ending RunReport}
    (hrun : Running log config start events ending last) :
    AreWorded log config ending events := by
  cases hrun with
  | refused => exact areWorded_trapped (by decide)
  | notStopped _ hstops hcut => exact .said .opening (hstops.areWorded.of_cuts hcut)
  | notCleaned _ hstops hcleans hcut =>
      exact .append (.said .opening hstops.areWorded.of_done) (hcleans.areWorded.of_cuts hcut)
  | complete _ hstops hcleans =>
      exact .append (.append (.said .opening hstops.areWorded.of_done) hcleans.areWorded.of_done)
        (.said .completed areWorded_nil)

end Shapes

end Decommission
