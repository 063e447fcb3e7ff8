import Decommission.Proofs.Run.Bind
import Mathlib.Data.List.Forall2

/-!
# Runs side by side

Two acts are compared part by part: begun in scenes that belong together, they show events that
belong together, end alike, and leave scenes that belong together.  What belongs together is a
parameter.  Two runs are alike once that is so for everything that runs are made of.

The managers of the two runs may differ in one respect.  Where the first one says that another actor
is already carrying out a request, the second one may say that it carried the request out.
-/

namespace Decommission

/-- Two endings are the same but for what came of it. -/
inductive Ending.Alike {α β : Type} (values : α → β → Prop) : Ending α → Ending β → Prop where
  | done {value other} (hvalues : values value other) : Alike values (.done value) (.done other)
  | failed (fault : Fault) : Alike values (.failed fault) (.failed fault)
  | halted (reason : Halt) : Alike values (.halted reason) (.halted reason)

theorem Ending.Alike.mono {α β : Type} {values others : α → β → Prop} {ending : Ending α}
    {other : Ending β} (halike : ending.Alike values other)
    (hmore : ∀ value value', values value value' → others value value') :
    ending.Alike others other := by
  cases halike with
  | done hvalues => exact .done (hmore _ _ hvalues)
  | failed fault => exact .failed fault
  | halted reason => exact .halted reason

theorem Ending.alike_refl {α : Type} (ending : Ending α) : ending.Alike Eq ending := by
  cases ending with
  | done value => exact .done rfl
  | failed fault => exact .failed fault
  | halted reason => exact .halted reason

theorem Ending.Alike.eq {α : Type} {ending other : Ending α} (halike : ending.Alike Eq other) :
    ending = other := by
  cases halike with
  | done hvalue => rw [hvalue]
  | failed | halted => rfl

/-- The second answer is the first one, or says success in the place of a race. -/
inductive Unraced : Except Fault ControlOutput → Except Fault ControlOutput → Prop where
  | same (answer : Except Fault ControlOutput) : Unraced answer answer
  | success {output : ControlOutput} (hrace : output.exitCode = some benignRaceCode) :
      Unraced (.ok output) (.ok { output with exitCode := some 0 })

theorem Unraced.of_eq {answer other : Except Fault ControlOutput} (hsame : answer = other) :
    Unraced answer other := by
  rw [hsame]
  exact .same other

theorem Unraced.command_eq {output other : ControlOutput}
    (houtput : Unraced (.ok output) (.ok other)) : output.command = other.command := by
  cases houtput <;> rfl

/-! ## Reports apart from races -/

/-- The report with no races counted. -/
def StopReport.apartFromRaces (report : StopReport) : StopReport :=
  { report with benignRaces := 0 }

theorem StopReport.passes_eq {report other : StopReport}
    (hreport : report.apartFromRaces = other.apartFromRaces) : report.passes = other.passes :=
  (StopReport.mk.inj hreport).2.1

def RunReport.apartFromRaces (report : RunReport) : RunReport :=
  { report with benignRaces := 0 }

/-- The reports on several services with no races counted. -/
def stopsApartFromRaces (stops : List (String × StopReport)) : List (String × StopReport) :=
  stops.map fun stop => (stop.1, stop.2.apartFromRaces)

/-- A report depends on the races in the services' reports only in its own count of races. -/
theorem RunReport.apartFromRaces_of {stops stops' : List (String × StopReport)}
    (hstops : stopsApartFromRaces stops = stopsApartFromRaces stops')
    (targets : List (Target × CleanupOutcome)) :
    (RunReport.of stops targets).apartFromRaces = (RunReport.of stops' targets).apartFromRaces := by
  have hstopped : ∀ stops : List (String × StopReport),
      (stops.filter (·.2.wasRunning)).map Prod.fst =
        ((stopsApartFromRaces stops).filter (·.2.wasRunning)).map Prod.fst := by
    intro stops
    simp [stopsApartFromRaces, List.filter_map, Function.comp_def, StopReport.apartFromRaces]
  unfold RunReport.apartFromRaces RunReport.of
  dsimp only
  rw [hstopped stops, hstopped stops', hstops]

/-! ## Acts that belong together -/

/-- What belongs together in two runs that are compared. -/
structure Pairing (σ ρ τ : Type) where
  scenes : Scene σ τ → Scene ρ τ → Prop
  events : Event → Event → Prop

namespace Pairing

variable {σ ρ τ α β γ δ : Type}

/-- Two performances that end alike, with scenes and events that belong together. -/
structure Performs (pairing : Pairing σ ρ τ) (values : α → β → Prop)
    (performed : Performance σ τ α) (other : Performance ρ τ β) : Prop where
  ending : performed.ending.Alike values other.ending
  events : List.Forall₂ pairing.events performed.events other.events
  scenes : pairing.scenes performed.scene other.scene

/-- Two acts that are performed alike in scenes that belong together. -/
def Relates (pairing : Pairing σ ρ τ) (values : α → β → Prop) (act : Act σ τ α)
    (other : Act ρ τ β) : Prop :=
  ∀ scene second, pairing.scenes scene second →
    pairing.Performs values (act scene) (other second)

theorem performs_of_eq {pairing : Pairing σ ρ τ} {performed : Performance σ τ α}
    {other : Performance ρ τ α} (hrefl : ∀ event, pairing.events event event)
    (hending : other.ending = performed.ending) (hevents : other.events = performed.events)
    (hscenes : pairing.scenes performed.scene other.scene) :
    pairing.Performs Eq performed other where
  ending := by
    rw [hending]
    exact performed.ending.alike_refl
  events := by
    rw [hevents]
    exact List.forall₂_same.mpr fun event _ => hrefl event
  scenes := hscenes

/-- All that runs are made of is performed alike. -/
structure Keeps (pairing : Pairing σ ρ τ) (manager : Manager σ) (other : Manager ρ)
    (clock : Clock τ) : Prop where
  progress : ∀ {scene second}, pairing.scenes scene second → second.progress = scene.progress
  moved : ∀ {scene second} progress, pairing.scenes scene second →
    pairing.scenes { scene with progress } { second with progress }
  said : ∀ message, pairing.Relates Eq (Act.say clock message) (Act.say clock message)
  trapped : ∀ caller fault, pairing.Relates Eq
    (Act.trap clock caller fault : Act σ τ Unit) (Act.trap clock caller fault)
  told : pairing.Relates Eq (Act.now clock) (Act.now clock)
  paused : ∀ duration, pairing.Relates Eq (Act.pause clock duration) (Act.pause clock duration)
  listed : ∀ service, pairing.Relates Eq
    (Act.ask (manager.isLoaded service) (.listed service))
    (Act.ask (other.isLoaded service) (.listed service))
  disabled : ∀ service, pairing.Relates Unraced
    (Act.ask (manager.disable service) (.disabled service))
    (Act.ask (other.disable service) (.disabled service))
  bootedOut : ∀ service, pairing.Relates Unraced
    (Act.ask (manager.bootOut service) (.bootedOut service))
    (Act.ask (other.bootOut service) (.bootedOut service))
  tested : ∀ target : Target, pairing.Relates Eq (Act.look target.isPresent (.tested target))
    (Act.look target.isPresent (.tested target))
  removed : ∀ target : Target, pairing.Relates Eq (Act.change target.remove (.removed target))
    (Act.change target.remove (.removed target))

/-! ## Parts -/

section Parts

variable {pairing : Pairing σ ρ τ} {values : α → β → Prop} {results : γ → δ → Prop}

/-- What follows two related acts has only to be related for values that belong together. -/
theorem Relates.bind {act : Act σ τ α} {other : Act ρ τ β} {next : α → Act σ τ γ}
    {follow : β → Act ρ τ δ} (hact : pairing.Relates values act other)
    (hnext : ∀ value value', values value value' →
      pairing.Relates results (next value) (follow value')) :
    pairing.Relates results (act >>= next) (other >>= follow) := by
  intro scene second hscenes
  obtain ⟨hending, hevents, hmiddle⟩ := hact scene second hscenes
  cases hfirst : act scene with
  | mk ending events middle =>
  cases hsecond : other second with
  | mk ending' events' middle' =>
      rw [hfirst, hsecond] at hending hevents hmiddle
      cases hending with
      | @done value value' hvalues =>
          rw [Act.bind_of_done hfirst, Act.bind_of_done hsecond]
          obtain ⟨hlast, hmore, hscenes'⟩ := hnext value value' hvalues middle middle' hmiddle
          exact ⟨hlast, List.rel_append hevents hmore, hscenes'⟩
      | failed fault =>
          rw [Act.bind_of_failed hfirst, Act.bind_of_failed hsecond]
          exact ⟨.failed fault, hevents, hmiddle⟩
      | halted reason =>
          rw [Act.bind_of_halted hfirst, Act.bind_of_halted hsecond]
          exact ⟨.halted reason, hevents, hmiddle⟩

theorem Relates.mono {others : α → β → Prop} {act : Act σ τ α} {other : Act ρ τ β}
    (hact : pairing.Relates values act other)
    (hmore : ∀ value value', values value value' → others value value') :
    pairing.Relates others act other := by
  intro scene second hscenes
  obtain ⟨hending, hevents, hlast⟩ := hact scene second hscenes
  exact ⟨hending.mono hmore, hevents, hlast⟩

theorem relates_pure {value : α} {other : β} (hvalues : values value other) :
    pairing.Relates values (pure value) (pure other) :=
  fun _ _ hscenes => ⟨.done hvalues, .nil, hscenes⟩

theorem relates_halt (reason : Halt) :
    pairing.Relates values (Act.halt reason) (Act.halt reason) :=
  fun _ _ hscenes => ⟨.halted reason, .nil, hscenes⟩

end Parts

variable {pairing : Pairing σ ρ τ} {manager : Manager σ} {other : Manager ρ} {clock : Clock τ}

theorem relates_trap {values : α → β → Prop} (hkeeps : pairing.Keeps manager other clock)
    (caller : Origin) (fault : Fault) :
    pairing.Relates values (Act.trap clock caller fault) (Act.trap clock caller fault) := by
  intro scene second hscenes
  obtain ⟨-, hevents, hlast⟩ := hkeeps.trapped caller fault scene second hscenes
  exact ⟨.failed fault, hevents, hlast⟩

theorem relates_accept (hkeeps : pairing.Keeps manager other clock) (caller : Origin)
    (answer : Except Fault α) :
    pairing.Relates Eq (Act.accept clock caller answer) (Act.accept clock caller answer) := by
  cases answer with
  | ok value => exact relates_pure rfl
  | error fault => exact relates_trap hkeeps caller fault

theorem relates_enter (hkeeps : pairing.Keeps manager other clock) (stage : Stage) :
    pairing.Relates Eq (Act.enter clock stage) (Act.enter clock stage) := by
  have hprogress : pairing.Relates Eq Act.progress Act.progress := by
    intro scene second hscenes
    exact ⟨.done (hkeeps.progress hscenes).symm, .nil, hscenes⟩
  apply Relates.bind hprogress
  rintro progress - rfl
  cases progress.transitionTo stage with
  | error refusal => exact relates_trap hkeeps _ _
  | ok next =>
      intro scene second hscenes
      exact ⟨.done rfl, .nil, hkeeps.moved next hscenes⟩

/-! ## Stopping -/

section Stopping

theorem relates_list (hkeeps : pairing.Keeps manager other clock) (service : Service) :
    pairing.Relates Eq (Act.list manager clock service) (Act.list other clock service) := by
  apply Relates.bind (hkeeps.listed service)
  rintro answer - rfl
  exact relates_accept hkeeps .stopping answer

/-- A request whose answer is a race and one that is a success are both accepted. -/
theorem relates_checkOutput (hkeeps : pairing.Keeps manager other clock)
    {output output' : ControlOutput} (houtput : Unraced (.ok output) (.ok output'))
    (races races' : Count) :
    pairing.Relates (fun _ _ => True) (Act.checkOutput clock output races)
      (Act.checkOutput clock output' races') := by
  have hcheck : pairing.Relates Eq
      (Act.checkCode clock .stopping .stopping output.code output.command)
      (Act.checkCode clock .stopping .stopping output'.code output'.command) := by
    unfold Act.checkCode
    cases houtput with
    | same =>
        cases ControlOutcome.ofCode output.code with
        | success | benignRace => exact relates_pure rfl
        | failed code => exact relates_trap hkeeps _ _
    | success hrace =>
        have hfirst : ControlOutcome.ofCode output.code = .benignRace := by
          rw [← ControlOutput.outcome_eq_ofCode, ControlOutput.outcome, hrace]
          rfl
        rw [hfirst]
        exact relates_pure rfl
  apply Relates.bind hcheck
  intro _ _ _
  exact relates_pure trivial

theorem relates_accept_request (hkeeps : pairing.Keeps manager other clock)
    {answer answer' : Except Fault ControlOutput} (hanswer : Unraced answer answer') :
    pairing.Relates (fun output output' => Unraced (.ok output) (.ok output'))
      (Act.accept clock .stopping answer) (Act.accept clock .stopping answer') := by
  cases hanswer with
  | success hrace => exact relates_pure (.success hrace)
  | same =>
      cases answer with
      | ok output => exact relates_pure (.same _)
      | error fault => exact relates_trap hkeeps _ _

theorem relates_request (hkeeps : pairing.Keeps manager other clock) (service : Service)
    (races races' : Count) :
    pairing.Relates (fun requested requested' => requested.2 = requested'.2)
      (Act.request manager clock service races) (Act.request other clock service races') := by
  apply Relates.bind (hkeeps.disabled service)
  intro answer answer' hanswer
  apply Relates.bind (relates_accept_request hkeeps hanswer)
  intro output output' houtput
  apply Relates.bind (relates_checkOutput hkeeps houtput races races')
  intro races races' _
  apply Relates.bind (hkeeps.bootedOut service)
  intro answer answer' hanswer
  apply Relates.bind (relates_accept_request hkeeps hanswer)
  intro output output' houtput
  apply Relates.bind (relates_checkOutput hkeeps houtput races races')
  intro races races' _
  exact relates_pure (Unraced.command_eq houtput)

theorem relates_checkTimeout (hkeeps : pairing.Keeps manager other clock) (policy : StopPolicy)
    (service : Service) (started : Nat) {report report' : StopReport}
    (hreport : report.apartFromRaces = report'.apartFromRaces) (lastCommand : String) :
    pairing.Relates Eq (Act.checkTimeout clock policy service started report lastCommand)
      (Act.checkTimeout clock policy service started report' lastCommand) := by
  have hpasses : report.passes = report'.passes := StopReport.passes_eq hreport
  unfold Act.checkTimeout
  cases policy.timeout with
  | none => exact relates_pure rfl
  | some limit =>
      apply Relates.bind hkeeps.told
      rintro time - rfl
      dsimp only
      rw [hpasses]
      split
      · exact relates_trap hkeeps _ _
      · exact relates_pure rfl

theorem relates_stopRounds (hkeeps : pairing.Keeps manager other clock) (policy : StopPolicy)
    (service : Service) (started rounds : Nat) {report report' : StopReport}
    (hreport : report.apartFromRaces = report'.apartFromRaces) (lastCommand : String) :
    pairing.Relates (fun final final' => final.apartFromRaces = final'.apartFromRaces)
      (Act.stopRounds manager clock policy service started rounds report lastCommand)
      (Act.stopRounds other clock policy service started rounds report' lastCommand) := by
  induction rounds generalizing report report' lastCommand with
  | zero => exact relates_halt _
  | succ rounds ih =>
      have hpasses : report.passes = report'.passes := StopReport.passes_eq hreport
      apply Relates.bind (relates_list hkeeps service)
      rintro loaded - rfl
      cases loaded with
      | false => exact relates_pure hreport
      | true =>
          simp only [if_true]
          cases policy.dryRun with
          | true =>
              apply Relates.bind (hkeeps.said _)
              intro _ _ _
              apply relates_pure
              simp [StopReport.apartFromRaces, hpasses]
          | false =>
              simp only [Bool.false_eq_true, if_false]
              have hloaded : { report with wasRunning := true }.apartFromRaces =
                  { report' with wasRunning := true }.apartFromRaces := by
                simp [StopReport.apartFromRaces, hpasses]
              apply Relates.bind (relates_checkTimeout hkeeps policy service started hloaded _)
              intro _ _ _
              apply Relates.bind (hkeeps.said _)
              intro _ _ _
              apply Relates.bind (relates_request hkeeps service _ _)
              rintro ⟨races, command⟩ ⟨races', -⟩ rfl
              apply Relates.bind (hkeeps.paused _)
              intro _ _ _
              apply Relates.bind (hkeeps.said _)
              intro _ _ _
              apply ih
              simp [StopReport.apartFromRaces, hpasses]

theorem relates_stop (hkeeps : pairing.Keeps manager other clock) (policy : StopPolicy)
    (rounds : Nat) (service : Service) :
    pairing.Relates (fun final final' => final.apartFromRaces = final'.apartFromRaces)
      (Act.stop manager clock policy rounds service)
      (Act.stop other clock policy rounds service) := by
  apply Relates.bind hkeeps.told
  rintro started - rfl
  exact relates_stopRounds hkeeps policy service started rounds rfl ""

theorem relates_stopAll (hkeeps : pairing.Keeps manager other clock) (policy : StopPolicy)
    (rounds : Nat) (services : List Service) :
    pairing.Relates (fun stops stops' => stopsApartFromRaces stops = stopsApartFromRaces stops')
      (Act.stopAll manager clock policy rounds services)
      (Act.stopAll other clock policy rounds services) := by
  induction services with
  | nil => exact relates_pure rfl
  | cons service rest ih =>
      apply Relates.bind (relates_stop hkeeps policy rounds service)
      intro report report' hreport
      apply Relates.bind ih
      intro stops stops' hstops
      apply relates_pure
      simp only [stopsApartFromRaces, List.map_cons] at hstops ⊢
      rw [hreport, hstops]

end Stopping

/-! ## Cleaning up -/

section Cleaning

theorem relates_takeAway (hkeeps : pairing.Keeps manager other clock) (target : Target) :
    pairing.Relates Eq (Act.takeAway clock target) (Act.takeAway clock target) := by
  apply Relates.bind (hkeeps.said _)
  intro _ _ _
  apply Relates.bind (hkeeps.removed target)
  rintro answer - rfl
  cases answer with
  | error cause => exact relates_trap hkeeps _ _
  | ok _ =>
      apply Relates.bind (hkeeps.said _)
      intro _ _ _
      exact relates_pure rfl

theorem relates_cleanup (hkeeps : pairing.Keeps manager other clock) (dryRun : Bool)
    (target : Target) :
    pairing.Relates Eq (Act.cleanup clock dryRun target) (Act.cleanup clock dryRun target) := by
  apply Relates.bind (hkeeps.tested target)
  rintro present - rfl
  cases present with
  | false => exact relates_pure rfl
  | true =>
      cases dryRun with
      | true =>
          apply Relates.bind (hkeeps.said _)
          intro _ _ _
          exact relates_pure rfl
      | false => exact relates_takeAway hkeeps target

theorem relates_cleanupAll (hkeeps : pairing.Keeps manager other clock) (dryRun : Bool)
    (targets : List Target) :
    pairing.Relates Eq (Act.cleanupAll clock dryRun targets)
      (Act.cleanupAll clock dryRun targets) := by
  induction targets with
  | nil => exact relates_pure rfl
  | cons target rest ih =>
      apply Relates.bind (relates_cleanup hkeeps dryRun target)
      rintro outcome - rfl
      apply Relates.bind ih
      rintro outcomes - rfl
      exact relates_pure rfl

end Cleaning

/-! ## Runs -/

theorem relates_execute (hkeeps : pairing.Keeps manager other clock) (rounds : Nat)
    (config : Config) :
    pairing.Relates (fun report report' => report.apartFromRaces = report'.apartFromRaces)
      (Act.execute manager clock rounds config) (Act.execute other clock rounds config) := by
  apply Relates.bind (relates_enter hkeeps _)
  intro _ _ _
  apply Relates.bind (hkeeps.said _)
  intro _ _ _
  apply Relates.bind (relates_stopAll hkeeps _ rounds _)
  intro stops stops' hstops
  apply Relates.bind (relates_enter hkeeps _)
  intro _ _ _
  apply Relates.bind (relates_cleanupAll hkeeps _ _)
  rintro outcomes - rfl
  apply Relates.bind (relates_enter hkeeps _)
  intro _ _ _
  apply Relates.bind (hkeeps.said _)
  intro _ _ _
  exact relates_pure (RunReport.apartFromRaces_of hstops _)

theorem relates_run (hkeeps : pairing.Keeps manager other clock) (rounds : Nat)
    (config : Config) :
    pairing.Relates (fun report report' => report.apartFromRaces = report'.apartFromRaces)
      (Act.run manager clock rounds config) (Act.run other clock rounds config) := by
  intro scene second hscenes
  obtain ⟨hending, hevents, hlast⟩ := relates_execute hkeeps rounds config scene second hscenes
  cases hfirst : Act.execute manager clock rounds config scene with
  | mk ending events last =>
  cases hsecond : Act.execute other clock rounds config second with
  | mk ending' events' last' =>
      rw [hfirst, hsecond] at hending hevents hlast
      rw [Act.run_of_execute hfirst, Act.run_of_execute hsecond]
      -- Both progress alike, and a fault aborts both.
      have hsettle : Act.settle ending' last'.progress = Act.settle ending last.progress := by
        rw [hkeeps.progress hlast]
        cases hending <;> rfl
      rw [hsettle]
      exact ⟨hending, hevents, hkeeps.moved _ hlast⟩

end Pairing

end Decommission
