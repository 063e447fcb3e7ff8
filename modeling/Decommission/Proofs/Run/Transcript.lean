import Decommission.Proofs.Run.Running

/-!
# Transcripts

What events tell of a run in three records: the calls of the manager, the messages of the run log,
and the targets that were looked for.  Stopping a service is told by its rounds, and dealing with a
target by whether it was there.
-/

namespace Decommission

/-! ## Records -/

namespace Event

def isCall : Event → Bool
  | .listed _ _ | .disabled _ _ | .bootedOut _ _ => true
  | _ => false

def message? : Event → Option String
  | .said _ message | .trapped _ message => some message
  | _ => none

/-- The target that was looked for, and whether it was there. -/
def look? : Event → Option (Target × Bool)
  | .tested target present => some (target, present)
  | _ => none

end Event

@[ext]
structure Transcript where
  calls : List Event
  messages : List String
  looks : List (Target × Bool)

namespace Transcript

def of (events : List Event) : Transcript where
  calls := events.filter Event.isCall
  messages := events.filterMap Event.message?
  looks := events.filterMap Event.look?

instance : Append Transcript where
  append first second :=
    ⟨first.calls ++ second.calls, first.messages ++ second.messages, first.looks ++ second.looks⟩

/-- One transcript after the other. -/
def join (parts : List Transcript) : Transcript where
  calls := parts.flatMap calls
  messages := parts.flatMap messages
  looks := parts.flatMap looks

section Append

variable (first second : Transcript)

@[simp]
theorem calls_append : (first ++ second).calls = first.calls ++ second.calls := rfl

@[simp]
theorem messages_append : (first ++ second).messages = first.messages ++ second.messages := rfl

@[simp]
theorem looks_append : (first ++ second).looks = first.looks ++ second.looks := rfl

end Append

theorem of_append (events more : List Event) : of (events ++ more) = of events ++ of more := by
  ext1 <;> simp [of]

theorem join_nil : join [] = of [] := rfl

theorem join_cons (part : Transcript) (parts : List Transcript) :
    join (part :: parts) = part ++ join parts := by
  ext1 <;> simp [join]

section Join

variable {ι : Type} (told : ι → Transcript) (parts : List ι)

theorem calls_join :
    (join (parts.map told)).calls = parts.flatMap fun part => (told part).calls := by
  simp [join, List.flatMap_map]

theorem messages_join :
    (join (parts.map told)).messages = parts.flatMap fun part => (told part).messages := by
  simp [join, List.flatMap_map]

theorem looks_join :
    (join (parts.map told)).looks = parts.flatMap fun part => (told part).looks := by
  simp [join, List.flatMap_map]

end Join

end Transcript

open Transcript (of_append)

/-- Acts that have a result are told one after the other, each by a detail of its own. -/
theorem InTurn.exists_told {ι α β δ : Type} {shape : ι → List Event → Ending α → Prop}
    {result : ι → α → β} {items : List ι} {events : List Event} {values : List β}
    (told : ι → δ → Transcript) (value : δ → α)
    (hturn : InTurn shape result items events (.done values))
    (hshape : ∀ item events answer, shape item events (.done answer) →
      ∃ detail, Transcript.of events = told item detail ∧ answer = value detail) :
    ∃ parts : List (ι × δ), parts.map Prod.fst = items ∧
      Transcript.of events = .join (parts.map fun part => told part.1 part.2) ∧
      values = parts.map fun part => result part.1 (value part.2) := by
  generalize hending : Ending.done values = ending at hturn
  induction hturn generalizing values with
  | nil =>
      cases hending
      exact ⟨[], rfl, Transcript.join_nil.symm, rfl⟩
  | @done item rest answer answers events more hitem hrest ih =>
      cases hending
      obtain ⟨detail, htold, rfl⟩ := hshape _ _ _ hitem
      obtain ⟨parts, rfl, hmore, rfl⟩ := ih rfl
      refine ⟨(item, detail) :: parts, rfl, ?_, rfl⟩
      rw [of_append, htold, hmore]
      exact (Transcript.join_cons _ _).symm
  | cut hitem hcut =>
      subst hending
      cases hcut
  | later hitem hrest hcut =>
      subst hending
      cases hcut

/-! ## Services -/

/-- The outputs of a round of requests that were both accepted. -/
structure Round where
  disabled : ControlOutput
  bootedOut : ControlOutput
  disabled_accepted : disabled.IsAccepted
  bootedOut_accepted : bootedOut.IsAccepted

/-- The number of outputs of requests that another actor was already carrying out. -/
def countRaces (outputs : List ControlOutput) : Nat :=
  outputs.countP (·.code = benignRaceCode)

theorem countRaces_append (outputs more : List ControlOutput) :
    countRaces (outputs ++ more) = countRaces outputs + countRaces more :=
  List.countP_append

theorem ControlOutput.countedIn_eq (output : ControlOutput) (races : Count) :
    output.countedIn races = races + .ofNat (countRaces [output]) := by
  have hrace : output.outcome = .benignRace ↔ output.code = benignRaceCode := by
    rw [outcome_eq_ofCode, ControlOutcome.ofCode]
    split
    · rename_i hzero
      simp [hzero, benignRaceCode]
    · split <;> simp [*]
  unfold countedIn countRaces
  rw [List.countP_singleton]
  by_cases hcode : output.code = benignRaceCode
  · simp [hrace.mpr hcode, hcode]
  · have houtcome : output.outcome ≠ .benignRace := fun h => hcode (hrace.mp h)
    simp [houtcome, hcode]

namespace Round

def outputs (round : Round) : List ControlOutput := [round.disabled, round.bootedOut]

def calls (service : Service) (round : Round) : List Event :=
  [.listed service (.ok true), .disabled service (.ok round.disabled),
    .bootedOut service (.ok round.bootedOut)]

/-- What is told of a service that is stopped in these rounds. -/
def told (service : Service) (rounds : List Round) : Transcript where
  calls := rounds.flatMap (calls service) ++ [.listed service (.ok false)]
  messages := rounds.flatMap fun _ => ["Stopping " ++ service.name ++ "...", "Stopped Successfully"]
  looks := []

/-- A report with these rounds added. -/
def addTo (report : StopReport) (rounds : List Round) : StopReport where
  wasRunning := report.wasRunning || !rounds.isEmpty
  passes := report.passes + .ofNat rounds.length
  benignRaces := report.benignRaces + .ofNat (countRaces (rounds.flatMap outputs))

theorem addTo_nil (report : StopReport) : addTo report [] = report := by
  obtain ⟨wasRunning, passes, benignRaces⟩ := report
  simp [addTo, countRaces]

theorem addTo_singleton (report : StopReport) (round : Round) : addTo report [round] =
    { wasRunning := true
      passes := report.passes + 1
      benignRaces := report.benignRaces + .ofNat (countRaces round.outputs) } := by
  simp [addTo]

/-- Rounds are added one after the other. -/
theorem addTo_append (report : StopReport) (rounds more : List Round) :
    addTo report (rounds ++ more) = addTo (addTo report rounds) more := by
  simp only [addTo, List.length_append, List.flatMap_append, countRaces_append, UInt32.ofNat_add,
    UInt32.add_assoc, StopReport.mk.injEq, and_true]
  cases rounds <;> cases more <;> simp

end Round

section Stopping

variable {log : RunLog} {policy : StopPolicy} {service : Service} {events : List Event}
variable {report final : StopReport} {last : String}

theorem Requesting.exists_round {races : Count} {requested : Count × String}
    (hrequest : Requesting log service races events (.done requested)) :
    ∃ round : Round,
      requested = (races + .ofNat (countRaces round.outputs), round.bootedOut.command) ∧
      events =
        [.disabled service (.ok round.disabled), .bootedOut service (.ok round.bootedOut)] := by
  cases hrequest with
  | @accepted output output' hdisabled hbootedOut =>
      refine ⟨⟨output, output', hdisabled, hbootedOut⟩, ?_, rfl⟩
      have hraces : countRaces [output, output'] = countRaces [output] + countRaces [output'] :=
        countRaces_append [output] [output']
      rw [ControlOutput.countedIn_eq, ControlOutput.countedIn_eq, UInt32.add_assoc,
        ← UInt32.ofNat_add, ← hraces]
      rfl

/-- What is told of a full round and of what comes after it. -/
theorem Transcript.of_round (policy : StopPolicy) (service : Service) (round : Round)
    (stamp stamp' : Stamp) (more : List Event) :
    of (.listed service (.ok true) :: .said stamp ("Stopping " ++ service.name ++ "...") ::
        [.disabled service (.ok round.disabled), .bootedOut service (.ok round.bootedOut)] ++
        .paused policy.pollInterval :: .said stamp' "Stopped Successfully" :: more) =
      ⟨round.calls service, ["Stopping " ++ service.name ++ "...", "Stopped Successfully"], []⟩ ++
        of more := rfl

/-- Unless in a dry run, a service is stopped in rounds. -/
theorem Stopping.exists_rounds (hdry : policy.dryRun = false)
    (hstop : Stopping log policy service report last events (.done final)) :
    ∃ rounds : List Round, Transcript.of events = Round.told service rounds ∧
      final = Round.addTo report rounds := by
  generalize hending : Ending.done final = ending at hstop
  induction hstop with
  | absent =>
      cases hending
      exact ⟨[], rfl, (Round.addTo_nil _).symm⟩
  | rehearsed hrehearsed =>
      rw [hdry] at hrehearsed
      cases hrehearsed
  | @round report last races command events more ending stamp stamp' _ hrequest hrest ih =>
      obtain ⟨round, hrequested, rfl⟩ := hrequest.exists_round
      obtain ⟨rfl, rfl⟩ := Prod.mk.inj hrequested
      obtain ⟨rounds, htold, rfl⟩ := ih hending
      refine ⟨round :: rounds, ?_, ?_⟩
      · rw [Transcript.of_round, htold]
        ext1 <;> simp [Round.told]
      · rw [← List.singleton_append, Round.addTo_append, Round.addTo_singleton]
  | unknown | late | denied | interrupted | exhausted => cases hending

theorem StoppingAll.exists_rounds {services : List Service} {reports : List (String × StopReport)}
    (hdry : policy.dryRun = false)
    (hstops : StoppingAll log policy services events (.done reports)) :
    ∃ stops : List (Service × List Round), stops.map Prod.fst = services ∧
      Transcript.of events = .join (stops.map fun stop => Round.told stop.1 stop.2) ∧
      reports = stops.map fun stop => (stop.1.name, Round.addTo {} stop.2) :=
  InTurn.exists_told Round.told (Round.addTo {}) hstops fun _ _ _ hstop => hstop.exists_rounds hdry

/-- What is told of a service that is queried in a dry run. -/
def queryTold (service : Service) (loaded : Bool) : Transcript where
  calls := [.listed service (.ok loaded)]
  messages := if loaded then ["[DRY RUN] Would stop " ++ service.name] else []
  looks := []

/-- In a dry run a service is queried once. -/
theorem Stopping.exists_loaded (hdry : policy.dryRun = true)
    (hstop : Stopping log policy service {} "" events (.done final)) :
    ∃ loaded, Transcript.of events = queryTold service loaded ∧
      final = { wasRunning := loaded } := by
  cases hstop with
  | absent => exact ⟨false, rfl, rfl⟩
  | rehearsed => exact ⟨true, rfl, rfl⟩
  | round hreal =>
      rw [hdry] at hreal
      cases hreal

theorem StoppingAll.exists_loaded {services : List Service} {reports : List (String × StopReport)}
    (hdry : policy.dryRun = true)
    (hstops : StoppingAll log policy services events (.done reports)) :
    ∃ queries : List (Service × Bool), queries.map Prod.fst = services ∧
      Transcript.of events = .join (queries.map fun query => queryTold query.1 query.2) ∧
      reports = queries.map fun query => (query.1.name, { wasRunning := query.2 }) :=
  InTurn.exists_told queryTold (fun loaded => { wasRunning := loaded }) hstops
    fun _ _ _ hstop => hstop.exists_loaded hdry

end Stopping

/-! ## Targets -/

/-- What becomes of a target by whether it was there. -/
def CleanupOutcome.ofPresent (dryRun present : Bool) : CleanupOutcome :=
  if present then if dryRun then .wouldRemove else .removed else .absent

namespace CleanupOutcome

variable {dryRun present : Bool}

@[simp]
theorem ofPresent_eq_absent : ofPresent dryRun present = .absent ↔ present = false := by
  cases present <;> cases dryRun <;> simp [ofPresent]

theorem ofPresent_eq_removed :
    ofPresent dryRun present = .removed ↔ present = true ∧ dryRun = false := by
  cases present <;> cases dryRun <;> simp [ofPresent]

theorem ofPresent_eq_wouldRemove :
    ofPresent dryRun present = .wouldRemove ↔ present = true ∧ dryRun = true := by
  cases present <;> cases dryRun <;> simp [ofPresent]

end CleanupOutcome

/-- What is told of a target by whether it was there. -/
def Target.told (dryRun : Bool) (target : Target) (present : Bool) : Transcript where
  calls := []
  messages :=
    if present then
      if dryRun then ["[DRY RUN] Would remove " ++ target.path.display]
      else ["Removing " ++ target.path.display, "Removed Successfully"]
    else []
  looks := [(target, present)]

section Cleaning

variable {log : RunLog} {dryRun : Bool} {events : List Event}

theorem Cleaning.exists_present {target : Target} {outcome : CleanupOutcome}
    (hclean : Cleaning log dryRun target events (.done outcome)) :
    ∃ present, Transcript.of events = target.told dryRun present ∧
      outcome = .ofPresent dryRun present := by
  cases hclean with
  | absent => exact ⟨false, rfl, rfl⟩
  | rehearsed hdry =>
      subst hdry
      exact ⟨true, rfl, rfl⟩
  | removed hdry =>
      subst hdry
      exact ⟨true, rfl, rfl⟩

theorem CleaningAll.exists_present {targets : List Target} {outcomes : List CleanupOutcome}
    (hcleans : CleaningAll log dryRun targets events (.done outcomes)) :
    ∃ finds : List (Target × Bool), finds.map Prod.fst = targets ∧
      Transcript.of events = .join (finds.map fun find => find.1.told dryRun find.2) ∧
      outcomes = finds.map fun find => .ofPresent dryRun find.2 :=
  InTurn.exists_told (Target.told dryRun) (.ofPresent dryRun) hcleans
    fun _ _ _ hclean => hclean.exists_present

end Cleaning

/-- What a run tells that is not cut short. -/
theorem Transcript.of_complete (config : Config) (stamp stamp' : Stamp)
    (stopped cleaned : List Event) :
    of (.said stamp (Act.opening config) :: stopped ++ cleaned ++
        [.said stamp' "Preinstall Completed Successfully"]) =
      ⟨[], [Act.opening config], []⟩ ++ of stopped ++ of cleaned ++
        ⟨[], ["Preinstall Completed Successfully"], []⟩ := by
  rw [of_append, of_append, ← List.singleton_append, of_append]
  rfl

end Decommission
