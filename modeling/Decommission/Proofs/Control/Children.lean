import Decommission.Control.Launchctl
import Decommission.Proofs.Run.Answers
import Decommission.Proofs.Run.Events
import Decommission.Proofs.Run.Fatal
import Decommission.Proofs.Run.Transcript
import Decommission.Rehearsal.Ground
import Decommission.Rehearsal.Time

/-!
# Children of the control program

Behind each call of the manager there is a child of the control program, which exits by itself or is
ended by a signal.  A request whose child was ended by a signal is fatal.  A query whose child was
ended by a signal counts as one that found the service not loaded.
-/

namespace Decommission

section Related

variable {α β : Type} {related : α → β → Prop} {items : List α} {others : List β}

theorem exists_of_mem_right {other : β} (hrelated : List.Forall₂ related items others)
    (hother : other ∈ others) : ∃ item ∈ items, related item other := by
  obtain ⟨index, hindex, rfl⟩ := List.mem_iff_getElem.mp hother
  have hitem : index < items.length := by
    rw [hrelated.length_eq]
    exact hindex
  exact ⟨_, List.getElem_mem hitem, hrelated.get hitem hindex⟩

theorem exists_of_concat_left {item : α}
    (hrelated : List.Forall₂ related (items ++ [item]) others) :
    ∃ front last, others = front ++ [last] ∧ List.Forall₂ related items front ∧
      related item last := by
  induction items generalizing others with
  | nil =>
      cases hrelated with
      | cons hitem hrest =>
          cases hrest
          exact ⟨[], _, rfl, .nil, hitem⟩
  | cons first items ih =>
      cases hrelated with
      | cons hfirst hrest =>
          obtain ⟨front, last, rfl, hfront, hlast⟩ := ih hrest
          exact ⟨_ :: front, last, rfl, .cons hfirst hfront, hlast⟩

end Related

/-! ## Children -/

/-- What the control program is asked for. -/
inductive Request where
  | query
  | disable
  | bootOut
  deriving DecidableEq, Repr

/-- A child of the control program. -/
structure Child where
  request : Request
  service : Service
  /-- Its exit code, with none if a signal ended it, or why it could not be run. -/
  ended : Except IoError (Option Int)

namespace Child

/-- A signal ended the child. -/
def IsCancelled (child : Child) : Prop := child.ended = .ok none

/-- The child exited by itself, with a code after which stopping goes on. -/
def GoesOn (child : Child) : Prop :=
  child.ended = .ok (some 0) ∨
    child.request ≠ .query ∧ child.ended = .ok (some benignRaceCode)

end Child

/-- The event is what the manager makes of the child. -/
inductive Event.Reports : Event → Child → Prop where
  | listed {service loaded exitCode} (hloaded : loaded = (exitCode == some 0)) :
      Reports (.listed service (.ok loaded)) ⟨.query, service, .ok exitCode⟩
  | notListed {service fault cause} :
      Reports (.listed service (.error fault)) ⟨.query, service, .error cause⟩
  | disabled {service output} :
      Reports (.disabled service (.ok output)) ⟨.disable, service, .ok output.exitCode⟩
  | notDisabled {service fault cause} :
      Reports (.disabled service (.error fault)) ⟨.disable, service, .error cause⟩
  | bootedOut {service output} :
      Reports (.bootedOut service (.ok output)) ⟨.bootOut, service, .ok output.exitCode⟩
  | notBootedOut {service fault cause} :
      Reports (.bootedOut service (.error fault)) ⟨.bootOut, service, .error cause⟩

namespace Launchctl

section Children

variable {κ : Type} (launchctl : Launchctl) (children : Children κ)

/-- How the child of a call ends. -/
def ended (arguments : List String) (files : FileSystem) (state : State κ) :
    Except IoError (Option Int) :=
  match children.spawn launchctl.binary arguments files state.children with
  | (.error cause, _) => .error cause
  | (.ok group, running) =>
      (children.wait group (state.calls.track group) running).1.map Ended.exitCode

/-- A call is answered with the exit code of its child, if the child could be run. -/
theorem call_cases (arguments : List String) (files : FileSystem) (state : State κ) :
    (∃ output, (launchctl.call children arguments files state).1 = .ok output ∧
      launchctl.ended children arguments files state = .ok output.exitCode) ∨
    (∃ fault cause, (launchctl.call children arguments files state).1 = .error fault ∧
      launchctl.ended children arguments files state = .error cause) := by
  unfold call ended
  cases hspawn : children.spawn launchctl.binary arguments files state.children with
  | mk spawned running =>
      cases spawned with
      | error cause => exact Or.inr ⟨_, cause, rfl, rfl⟩
      | ok group =>
          dsimp only
          cases hwait : (children.wait group (state.calls.track group) running).1 with
          | error cause => exact Or.inr ⟨_, cause, rfl, rfl⟩
          | ok ended => exact Or.inl ⟨_, rfl, rfl⟩

/-- The arguments of a call. -/
def arguments (service : Service) : Request → List String
  | .query => listArguments service
  | .disable => launchctl.disableArguments service
  | .bootOut => launchctl.bootOutArguments service

/-- The child of a call that is made in this situation. -/
def child (situation : Situation (State κ)) (request : Request) (service : Service) : Child :=
  ⟨request, service, launchctl.ended children (launchctl.arguments service request)
    situation.moment.files situation.state⟩

/-- The child behind an event, if there is one. -/
def child? (situation : Situation (State κ)) : Event → Option Child
  | .listed service _ => some (launchctl.child children situation .query service)
  | .disabled service _ => some (launchctl.child children situation .disable service)
  | .bootedOut service _ => some (launchctl.child children situation .bootOut service)
  | _ => none

/-- The children behind events, in their order. -/
def childrenOf : Situation (State κ) → List Event → List Child
  | _, [] => []
  | situation, event :: rest =>
      (launchctl.child? children situation event).toList ++
        childrenOf (situation.after (launchctl.manager children) event) rest

variable {launchctl children}

theorem reports_child {situation : Situation (State κ)} {event : Event} {child : Child}
    (hgives : situation.Gives (launchctl.manager children) event)
    (hchild : launchctl.child? children situation event = some child) : event.Reports child := by
  have hcall := fun arguments =>
    launchctl.call_cases children arguments situation.moment.files situation.state
  cases event with
  | listed service answer =>
      cases hchild
      rcases hcall (listArguments service) with
        ⟨output, hanswer, hended⟩ | ⟨fault, cause, hanswer, hended⟩
      · have hgiven : answer = .ok (output.exitCode == some 0) := by
          rw [hgives]
          simp [manager, hanswer, Except.map]
        rw [hgiven, Launchctl.child, arguments, hended]
        exact .listed rfl
      · have hgiven : answer = .error fault := by
          rw [hgives]
          simp [manager, hanswer, Except.map]
        rw [hgiven, Launchctl.child, arguments, hended]
        exact .notListed
  | disabled service answer =>
      cases hchild
      rcases hcall (launchctl.disableArguments service) with
        ⟨output, hanswer, hended⟩ | ⟨fault, cause, hanswer, hended⟩
      · rw [hgives.trans hanswer, Launchctl.child, arguments, hended]
        exact .disabled
      · rw [hgives.trans hanswer, Launchctl.child, arguments, hended]
        exact .notDisabled
  | bootedOut service answer =>
      cases hchild
      rcases hcall (launchctl.bootOutArguments service) with
        ⟨output, hanswer, hended⟩ | ⟨fault, cause, hanswer, hended⟩
      · rw [hgives.trans hanswer, Launchctl.child, arguments, hended]
        exact .bootedOut
      · rw [hgives.trans hanswer, Launchctl.child, arguments, hended]
        exact .notBootedOut
  | paused | said | trapped | tested | removed => cases hchild

theorem reports_childrenOf {situation : Situation (State κ)} {events : List Event}
    (hanswers : situation.Answers (launchctl.manager children) events) :
    List.Forall₂ Event.Reports (Transcript.of events).calls
      (launchctl.childrenOf children situation events) := by
  induction events generalizing situation with
  | nil => exact .nil
  | cons event rest ih =>
      obtain ⟨hgives, hrest⟩ := hanswers
      have hmore := ih hrest
      cases event with
      | listed | disabled | bootedOut => exact .cons (reports_child hgives rfl) hmore
      | paused | said | trapped | tested | removed => exact hmore

theorem exists_event {situation : Situation (State κ)} {events : List Event} {child : Child}
    (hanswers : situation.Answers (launchctl.manager children) events)
    (hchild : child ∈ launchctl.childrenOf children situation events) :
    ∃ event ∈ events, event.Reports child := by
  obtain ⟨event, hcall, hreports⟩ := exists_of_mem_right (reports_childrenOf hanswers) hchild
  exact ⟨event, List.mem_of_mem_filter hcall, hreports⟩

end Children

end Launchctl

/-! ## Requests that are not accepted -/

/-- The event is a request that was answered with this output. -/
def Event.Requests (service : Service) (output : ControlOutput) (event : Event) : Prop :=
  event = .disabled service (.ok output) ∨ event = .bootedOut service (.ok output)

theorem ControlOutput.not_isAccepted_of_cancelled {output : ControlOutput}
    (hcancelled : output.exitCode = none) : ¬output.IsAccepted := by
  unfold IsAccepted code
  rw [hcancelled]
  decide

theorem ControlOutput.IsAccepted.exitCode_eq {output : ControlOutput}
    (haccepted : output.IsAccepted) :
    output.exitCode = some 0 ∨ output.exitCode = some benignRaceCode := by
  unfold IsAccepted code at haccepted
  cases hcode : output.exitCode with
  | none =>
      rw [hcode] at haccepted
      exact absurd haccepted (by decide)
  | some code =>
      rw [hcode] at haccepted
      simpa using haccepted

/-- A request that was answered but not accepted is what the act fails over. -/
theorem Records.of_not_isAccepted {α : Type} {log : RunLog} {policy : StopPolicy} {stage : Stage}
    {events : List Event} {ending : Ending α} {event : Event} {service : Service}
    {output : ControlOutput} (hrecords : Records log policy stage events ending)
    (hevent : event ∈ events) (hrequest : event.Requests service output)
    (hcode : ¬output.IsAccepted) :
    ending = .failed (.service output.code output.command .stopping) := by
  have hrough : ¬event.IsSmooth := by
    rcases hrequest with rfl | rfl <;> simpa [Event.IsSmooth] using hcode
  cases ending with
  | done _ | halted _ => exact absurd (hrecords event hevent) hrough
  | failed fault =>
      obtain ⟨earlier, cause, stamp, caller, rfl, hcause, hearlier⟩ := hrecords
      rw [List.mem_append, List.mem_pair] at hevent
      rcases hevent with hbefore | rfl | rfl
      · exact absurd (hearlier event hbefore) hrough
      · have hdenied : Denied (.ok output) fault := by
          rcases hrequest with rfl | rfl <;> cases hcause <;> assumption
        cases hdenied
        rfl
      · rcases hrequest with hrequest | hrequest <;> cases hrequest

section Shapes

variable {log : RunLog} {policy : StopPolicy} {service other : Service} {events : List Event}

theorem Requesting.not_listed {races : Count} {ending : Ending (Count × String)}
    {answer : Except Fault Bool} (hrequest : Requesting log service races events ending) :
    .listed other answer ∉ events := by
  cases hrequest <;> simp

/-- Once a query finds the service not loaded, it is stopped. -/
theorem Stopping.done_of_absent {report : StopReport} {last : String} {ending : Ending StopReport}
    (hstop : Stopping log policy service report last events ending)
    (habsent : .listed other (.ok false) ∈ events) : ∃ final, ending = .done final := by
  induction hstop with
  | absent => exact ⟨_, rfl⟩
  | unknown | rehearsed | late | exhausted => simp at habsent
  | denied _ hrequest | interrupted _ hrequest => simp [hrequest.not_listed] at habsent
  | round _ hrequest _ ih =>
      apply ih
      simpa [hrequest.not_listed] using habsent

theorem Running.of_not_isAccepted {config : Config} {start last : Progress}
    {ending : Ending RunReport} {event : Event} {output : ControlOutput}
    (hrun : Running log config start events ending last) (hevent : event ∈ events)
    (hrequest : event.Requests service output) (hcode : ¬output.IsAccepted) :
    ending = .failed (.service output.code output.command .stopping) ∧
      ∀ event ∈ events, event.target? = none := by
  have hservice : event.service? = some service := by
    rcases hrequest with rfl | rfl <;> rfl
  have hsaid : ∀ stamp message, event ≠ .said stamp message := by
    rintro stamp message rfl
    cases hservice
  cases hrun with
  | refused =>
      rw [List.mem_singleton] at hevent
      subst hevent
      cases hservice
  | notStopped _ hstops hcut =>
      rw [List.mem_cons] at hevent
      have hstopped := hevent.resolve_left (hsaid _ _)
      have hfailed := (hstops.records.of_cuts hcut).of_not_isAccepted hstopped hrequest hcode
      exact ⟨hfailed, List.forall_mem_cons.mpr ⟨rfl, hstops.target?_eq_none⟩⟩
  | notCleaned _ hstops hcleans =>
      rw [List.cons_append, List.mem_cons, List.mem_append] at hevent
      rcases hevent.resolve_left (hsaid _ _) with hstopped | hcleaned
      · cases hstops.records.of_not_isAccepted hstopped hrequest hcode
      · rw [hcleans.service?_eq_none event hcleaned] at hservice
        cases hservice
  | complete _ hstops hcleans =>
      rw [List.mem_append, List.cons_append, List.mem_cons, List.mem_append, List.mem_singleton]
        at hevent
      rcases (hevent.resolve_right (hsaid _ _)).resolve_left (hsaid _ _) with hstopped | hcleaned
      · cases hstops.records.of_not_isAccepted hstopped hrequest hcode
      · rw [hcleans.service?_eq_none event hcleaned] at hservice
        cases hservice

end Shapes

/-! ## Cancelled children -/

namespace Event.Reports

variable {event : Event} {child : Child}

/-- What is made of a child that a signal ended. -/
theorem of_isCancelled (hreports : event.Reports child) (hcancelled : child.IsCancelled) :
    child.request = .query ∧ event = .listed child.service (.ok false) ∨
      child.request ≠ .query ∧
        ∃ output, event.Requests child.service output ∧ output.exitCode = none := by
  cases hreports with
  | listed hloaded =>
      cases hcancelled
      exact Or.inl ⟨rfl, by rw [hloaded]; rfl⟩
  | disabled => exact Or.inr ⟨by simp, _, Or.inl rfl, Except.ok.inj hcancelled⟩
  | bootedOut => exact Or.inr ⟨by simp, _, Or.inr rfl, Except.ok.inj hcancelled⟩
  | notListed | notDisabled | notBootedOut => cases hcancelled

end Event.Reports

/-- Every child in these rounds exits by itself. -/
theorem Round.goesOn {service : Service} {rounds : List Round} {children : List Child}
    (hreports : List.Forall₂ Event.Reports (rounds.flatMap (Round.calls service)) children) :
    ∀ child ∈ children, child.GoesOn := by
  intro child hchild
  obtain ⟨event, hevent, hreports⟩ := exists_of_mem_right hreports hchild
  obtain ⟨round, -, hevent⟩ := List.mem_flatMap.mp hevent
  rw [Round.calls, List.mem_cons, List.mem_pair] at hevent
  rcases hevent with rfl | rfl | rfl
  · cases hreports with
    | listed hloaded => exact Or.inl (by rw [beq_iff_eq.mp hloaded.symm])
  · cases hreports
    rcases round.disabled_accepted.exitCode_eq with hcode | hcode <;> simp [Child.GoesOn, hcode]
  · cases hreports
    rcases round.bootedOut_accepted.exitCode_eq with hcode | hcode <;> simp [Child.GoesOn, hcode]

/-- What becomes of stopping a service, by the children behind it. -/
structure StopsBy (service : Service) (children : List Child) (ending : Ending StopReport) :
    Prop where
  /-- The last child is that of a query, and all children before it exited by themselves. -/
  confirmed : ∀ report, ending = .done report → ∃ front exitCode,
    children = front ++ [⟨.query, service, .ok exitCode⟩] ∧ exitCode ≠ some 0 ∧
      ∀ child ∈ front, child.GoesOn
  requested : ∀ child ∈ children, child.request ≠ .query → child.IsCancelled →
    ∃ command, ending = .failed (.service signalledCode command .stopping)
  queried : ∀ child ∈ children, child.request = .query → child.IsCancelled →
    ∃ report, ending = .done report

namespace Launchctl

variable {κ τ : Type} (launchctl : Launchctl) (children : Children κ) (clock : Clock τ)
variable (rounds : Nat) (scene : Scene (State κ) τ)

theorem stop_stopsBy {policy : StopPolicy} (hdry : policy.dryRun = false) (service : Service) :
    let performed := Act.stop (launchctl.manager children) clock policy rounds service scene
    StopsBy service (launchctl.childrenOf children scene.situation performed.events)
      performed.ending := by
  intro performed
  have hanswers : scene.situation.Answers (launchctl.manager children) performed.events :=
    (Act.consults_stop (launchctl.manager children) clock policy rounds service scene).2
  have hstop : Stopping scene.log policy service {} "" performed.events performed.ending :=
    (Act.shows_stop (launchctl.manager children) clock policy rounds service scene ⟨rfl, rfl⟩).1
  refine ⟨?confirmed, ?requested, ?queried⟩
  case confirmed =>
    intro report hdone
    rw [hdone] at hstop
    obtain ⟨turns, htold, -⟩ := hstop.exists_rounds hdry
    have hreports := reports_childrenOf hanswers
    rw [htold] at hreports
    obtain ⟨front, last, hchildren, hfront, hlast⟩ := exists_of_concat_left hreports
    cases hlast with
    | @listed _ _ exitCode hloaded =>
        exact ⟨front, exitCode, hchildren, by simpa using hloaded, Round.goesOn hfront⟩
  case requested =>
    intro child hchild hrequest hcancelled
    obtain ⟨event, hevent, hreports⟩ := exists_event hanswers hchild
    rcases hreports.of_isCancelled hcancelled with ⟨hquery, -⟩ | ⟨-, output, hevents, hcode⟩
    · exact absurd hquery hrequest
    · have hfailed := hstop.records.of_not_isAccepted hevent hevents
        (ControlOutput.not_isAccepted_of_cancelled hcode)
      rw [ControlOutput.code, hcode] at hfailed
      exact ⟨output.command, hfailed⟩
  case queried =>
    intro child hchild hquery hcancelled
    obtain ⟨event, hevent, hreports⟩ := exists_event hanswers hchild
    rcases hreports.of_isCancelled hcancelled with ⟨-, rfl⟩ | ⟨hrequest, -⟩
    · exact hstop.done_of_absent hevent
    · exact absurd hquery hrequest

theorem run_failed_of_isCancelled (config : Config) {child : Child}
    (hchild : child ∈ launchctl.childrenOf children scene.situation
      (Act.run (launchctl.manager children) clock rounds config scene).events)
    (hrequest : child.request ≠ .query) (hcancelled : child.IsCancelled) :
    (∃ command, (Act.run (launchctl.manager children) clock rounds config scene).ending =
        .failed (.service signalledCode command .stopping)) ∧
      ∀ event ∈ (Act.run (launchctl.manager children) clock rounds config scene).events,
        event.target? = none := by
  have hanswers :=
    (Act.consults_run (launchctl.manager children) clock rounds config scene).2
  have hrun := Act.run_shows (launchctl.manager children) clock rounds config scene
  dsimp only at hrun
  obtain ⟨event, hevent, hreports⟩ := exists_event hanswers hchild
  rcases hreports.of_isCancelled hcancelled with ⟨hquery, -⟩ | ⟨-, output, hevents, hcode⟩
  · exact absurd hquery hrequest
  · obtain ⟨hfailed, huntouched⟩ := hrun.of_not_isAccepted hevent hevents
      (ControlOutput.not_isAccepted_of_cancelled hcode)
    rw [ControlOutput.code, hcode] at hfailed
    exact ⟨⟨output.command, hfailed⟩, huntouched⟩

/-- A request whose child was ended by a signal is fatal, for stopping a service and for a run,
which then touches no target.  A query whose child was ended by a signal is not: stopping is done
with it. -/
theorem cancelled_children :
    (∀ policy service, policy.dryRun = false →
      let performed := Act.stop (launchctl.manager children) clock policy rounds service scene
      StopsBy service (launchctl.childrenOf children scene.situation performed.events)
        performed.ending) ∧
    ∀ config,
      let performed := Act.run (launchctl.manager children) clock rounds config scene
      ∀ child ∈ launchctl.childrenOf children scene.situation performed.events,
        child.request ≠ .query → child.IsCancelled →
          (∃ command, performed.ending = .failed (.service signalledCode command .stopping)) ∧
            ∀ event ∈ performed.events, event.target? = none :=
  ⟨fun _ service hdry => launchctl.stop_stopsBy children clock rounds scene hdry service,
    fun config _ hchild hrequest hcancelled =>
      launchctl.run_failed_of_isCancelled children clock rounds scene config hchild hrequest
        hcancelled⟩

section Rehearsals

open Rehearsal

/-- One artifact is there, and the control program answers in this way. -/
def rehearsed (responses : List (String × List Response)) : Scene (State Programs) Time :=
  let ground := Ground.install "/bin/launchctl" .scripted
    (FileSystem.empty.makeDirectory (.ofString "/opt/salt/bin"), { responses })
  { manager := ⟨ground.2, .none⟩
    clock := {}
    files := ground.1
    log := .opened Config.defaultLogPath "preinstall"
    progress := .fresh }

theorem cancelled_children_bootOut :
    let scene := rehearsed [("list", [⟨[], .exits 0⟩]), ("bootout", [⟨[], .hangs⟩])]
    let manager := standard.manager Programs.children
    let stopped := Act.stop manager Time.clock Config.standard.stopPolicy 2 (.ofRole "minion") scene
    let performed := Act.run manager Time.clock 2 .standard scene
    Config.standard.stopPolicy.dryRun = false ∧
      StopsBy (.ofRole "minion")
        (standard.childrenOf Programs.children scene.situation stopped.events) stopped.ending ∧
      standard.childrenOf Programs.children scene.situation performed.events =
        [⟨.query, .ofRole "minion", .ok (some 0)⟩, ⟨.disable, .ofRole "minion", .ok (some 0)⟩,
          ⟨.bootOut, .ofRole "minion", .ok none⟩] ∧
      (∃ command, performed.ending = .failed (.service signalledCode command .stopping)) ∧
      ∀ event ∈ performed.events, event.target? = none := by
  have hchildren :
      let scene := rehearsed [("list", [⟨[], .exits 0⟩]), ("bootout", [⟨[], .hangs⟩])]
      standard.childrenOf Programs.children scene.situation
        (Act.run (standard.manager Programs.children) Time.clock 2 .standard scene).events =
          [⟨.query, .ofRole "minion", .ok (some 0)⟩, ⟨.disable, .ofRole "minion", .ok (some 0)⟩,
            ⟨.bootOut, .ofRole "minion", .ok none⟩] := by
    with_unfolding_all rfl
  obtain ⟨hstop, hrun⟩ := cancelled_children standard Programs.children Time.clock 2 (rehearsed _)
  refine ⟨rfl, hstop _ _ rfl, hchildren, hrun _ ⟨.bootOut, .ofRole "minion", .ok none⟩ ?_ ?_ rfl⟩
  · rw [hchildren]
    simp
  · simp

/-- A query that was cancelled passes for one that found the service not loaded. -/
theorem cancelled_query_passes :
    let scene := rehearsed [("list", [⟨[], .exits 0⟩, ⟨[], .hangs⟩])]
    let manager := standard.manager Programs.children
    let stopped := Act.stop manager Time.clock Config.standard.stopPolicy 2 (.ofRole "minion") scene
    let performed := Act.run manager Time.clock 2 .standard scene
    standard.childrenOf Programs.children scene.situation stopped.events =
        [⟨.query, .ofRole "minion", .ok (some 0)⟩, ⟨.disable, .ofRole "minion", .ok (some 0)⟩,
          ⟨.bootOut, .ofRole "minion", .ok (some 0)⟩, ⟨.query, .ofRole "minion", .ok none⟩] ∧
      stopped.ending = .done { wasRunning := true, passes := 1 } ∧
      performed.ending = .done ⟨["salt-minion"], [.ofString "/opt/salt"],
        [.ofString "/usr/local/sbin/salt-config", .ofString "/etc/paths.d/salt"], 0⟩ := by
  with_unfolding_all exact ⟨rfl, rfl, rfl⟩

end Rehearsals

end Launchctl

end Decommission
