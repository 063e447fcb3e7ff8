import Decommission.Proofs.Run.Success

/-!
# How stopping a service closes

A service is stopped in full rounds, and then there is exactly one closing: a query that finds it not
loaded, a query or a request that fails, or the timeout.  The calls, the messages of the run log and
the result all tell of the same rounds and the same closing.
-/

namespace Decommission

namespace Round

/-- The command of the last request in the rounds. -/
def lastCommand (rounds : List Round) : String :=
  (rounds.getLast?.map (·.bootedOut.command)).getD ""

theorem lastCommand_concat (rounds : List Round) (round : Round) :
    lastCommand (rounds ++ [round]) = round.bootedOut.command := by
  simp [lastCommand]

end Round

section Closing

variable (log : RunLog) (policy : StopPolicy) (service : Service) (rounds : List Round)

/-- The calls and the messages after full rounds, and what stopping the service ends with. -/
inductive Closing : List Event → List String → Ending StopReport → Prop where
  | absent :
      Closing [.listed service (.ok false)] []
        (.done
          { wasRunning := !rounds.isEmpty
            passes := .ofNat rounds.length
            benignRaces := .ofNat (countRaces (rounds.flatMap Round.outputs)) })
  | unknown {fault} :
      Closing [.listed service (.error fault)] [log.fatal .stopping fault] (.failed fault)
  /-- A service is given up after one full round at the earliest. -/
  | late {limit waited fault} (hrounds : rounds ≠ []) (hlimit : policy.timeout = some limit)
      (hwaited : limit ≤ waited)
      (hfault : fault =
        .stopTimeout service.name waited (Round.lastCommand rounds) .stopping) :
      Closing [.listed service (.ok true)] [log.fatal .stopping fault] (.failed fault)
  | notDisabled {answer fault} (hdenied : Denied answer fault) :
      Closing [.listed service (.ok true), .disabled service answer]
        ["Stopping " ++ service.name ++ "...", log.fatal .stopping fault] (.failed fault)
  | notBootedOut {output answer fault} (hdisabled : output.IsAccepted)
      (hdenied : Denied answer fault) :
      Closing
        [.listed service (.ok true), .disabled service (.ok output), .bootedOut service answer]
        ["Stopping " ++ service.name ++ "...", log.fatal .stopping fault] (.failed fault)

/-- The events tell of these rounds and of a closing that goes with the ending. -/
structure ClosesAfter (events : List Event) (ending : Ending StopReport) (calls : List Event)
    (messages : List String) : Prop where
  closing : Closing log policy service rounds calls messages ending
  calls : (Transcript.of events).calls = rounds.flatMap (Round.calls service) ++ calls
  messages : (Transcript.of events).messages =
    (rounds.flatMap fun _ => ["Stopping " ++ service.name ++ "...", "Stopped Successfully"]) ++
      messages
  looks : (Transcript.of events).looks = []

end Closing

section Stopping

variable {log : RunLog} {policy : StopPolicy} {service : Service} {events : List Event}
variable {ending : Ending StopReport}

/-- Rounds that were made before count for the closing as well. -/
theorem Stopping.exists_closing {report : StopReport} {last : String}
    (hdry : policy.dryRun = false) (hending : ∀ reason, ending ≠ .halted reason)
    (hstop : Stopping log policy service report last events ending) (before : List Round)
    (hreport : report = Round.addTo {} before) (hlast : last = Round.lastCommand before) :
    ∃ rounds calls messages, Closing log policy service (before ++ rounds) calls messages ending ∧
      Transcript.of events = ⟨rounds.flatMap (Round.calls service) ++ calls,
        (rounds.flatMap fun _ => ["Stopping " ++ service.name ++ "...", "Stopped Successfully"]) ++
          messages, []⟩ := by
  induction hstop generalizing before with
  | absent =>
      refine ⟨[], _, _, ?_, rfl⟩
      rw [hreport, List.append_nil]
      simpa [Round.addTo] using
        (Closing.absent : Closing log policy service before _ _ _)
  | unknown => exact ⟨[], _, _, .unknown, rfl⟩
  | rehearsed hrehearsed =>
      rw [hdry] at hrehearsed
      cases hrehearsed
  | late _ hlimit hpasses hwaited =>
      have hrounds : before ≠ [] := by
        rintro rfl
        rw [hreport] at hpasses
        exact absurd hpasses (by decide)
      refine ⟨[], _, _, ?_, rfl⟩
      rw [List.append_nil, hlast]
      exact .late hrounds hlimit hwaited rfl
  | denied _ hrequest =>
      cases hrequest with
      | notDisabled hdenied => exact ⟨[], _, _, .notDisabled hdenied, rfl⟩
      | notBootedOut hdisabled hdenied => exact ⟨[], _, _, .notBootedOut hdisabled hdenied, rfl⟩
  | interrupted | exhausted => exact absurd rfl (hending _)
  | @round report last races command events more ending stamp stamp' _ hrequest hrest ih =>
      obtain ⟨round, hrequested, rfl⟩ := hrequest.exists_round
      obtain ⟨rfl, rfl⟩ := Prod.mk.inj hrequested
      subst hreport
      obtain ⟨rounds, calls, messages, hclosing, htold⟩ :=
        ih hending (before ++ [round])
          (by rw [Round.addTo_append, Round.addTo_singleton])
          (Round.lastCommand_concat before round).symm
      rw [List.append_assoc] at hclosing
      refine ⟨round :: rounds, calls, messages, hclosing, ?_⟩
      rw [Transcript.of_round, htold]
      ext1 <;> simp

theorem Stopping.exists_closesAfter (hdry : policy.dryRun = false)
    (hending : ∀ reason, ending ≠ .halted reason)
    (hstop : Stopping log policy service {} "" events ending) :
    ∃ rounds calls messages,
      ClosesAfter log policy service rounds events ending calls messages := by
  obtain ⟨rounds, calls, messages, hclosing, htold⟩ :=
    hstop.exists_closing hdry hending [] rfl rfl
  exact ⟨rounds, calls, messages, hclosing, congrArg Transcript.calls htold,
    congrArg Transcript.messages htold, congrArg Transcript.looks htold⟩

end Stopping

namespace Act

variable {σ τ : Type}

/-- Unless in a dry run, stopping a service that comes to an end is made of full rounds and one
closing.  The manager gave the answers in them. -/
theorem stop_closes (manager : Manager σ) (clock : Clock τ) (policy : StopPolicy) (rounds : Nat)
    (service : Service) (scene : Scene σ τ) (hdry : policy.dryRun = false)
    (hending : ∀ reason, (stop manager clock policy rounds service scene).ending ≠ .halted reason) :
    let performed := stop manager clock policy rounds service scene
    (∃ turns calls messages, ClosesAfter scene.log policy service turns performed.events
      performed.ending calls messages) ∧
    Consults manager scene performed.events performed.scene := by
  have hstop := (shows_stop manager clock policy rounds service scene ⟨rfl, rfl⟩).1
  exact ⟨hstop.exists_closesAfter hdry hending,
    consults_stop manager clock policy rounds service scene⟩

open Rehearsal in
/-- The first round meets a race, and the second one a request that is denied. -/
theorem stop_closes_denied :
    let scene : Scene Scripted Time :=
      { manager.script :=
          { loaded := [("com.saltstack.salt.minion", 2)]
            disable := [("com.saltstack.salt.minion", [.ok (some 36)])]
            bootOut := [("com.saltstack.salt.minion", [.ok (some 0), .ok (some 5)])] }
        clock := {}
        files := FileSystem.empty.makeDirectory (.ofString "/tmp")
        log := .opened Config.defaultLogPath "preinstall"
        progress := .fresh }
    let service := Service.ofRole "minion"
    let performed := stop Scripted.manager Time.clock .standard 3 service scene
    let command := "launchctl bootout system " ++ service.definition.display
    StopPolicy.standard.dryRun = false ∧ performed.ending = .failed (.service 5 command .stopping) ∧
      (∃ turns calls messages, ClosesAfter scene.log .standard service turns performed.events
        performed.ending calls messages) ∧
      Consults Scripted.manager scene performed.events performed.scene := by
  refine ⟨rfl, rfl, stop_closes _ _ _ _ _ _ rfl ?_⟩
  rintro reason hreason
  cases hreason

end Act

end Decommission
