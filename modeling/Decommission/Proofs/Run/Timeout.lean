import Decommission.Proofs.Run.Closing
import Decommission.Proofs.Run.Rounds

/-!
# Stopping in time

A time limit bounds the rounds in which a service is stopped, whatever the manager answers: each
round takes a pause, and once the pauses have used the limit up the next query is the last one.  The
limit is never enforced early.  A service is given up after a full round, with a query that still
finds it loaded; one that a query no longer finds counts as stopped, however late that is.

Whether there was a round is read off the count of rounds, and that begins anew after 2^32 of them.
So the bound is one round higher where it would be a multiple of that, and this round is made.
-/

namespace Decommission

/-! ## Time -/

/-- The clock never goes back, and a pause of this duration takes its time. -/
structure Clock.KeepsTime {τ : Type} (clock : Clock τ) (time : τ → Nat) (duration : Nat) :
    Prop where
  le_now : ∀ state, time state ≤ (clock.now state).1
  now_le : ∀ state, (clock.now state).1 ≤ time (clock.now state).2
  stamp : ∀ state, time state ≤ time (clock.stamp state).2
  le_pause : ∀ other state, time state ≤ time (clock.pause other state).2
  pause : ∀ state, time state + duration ≤ time (clock.pause duration state).2

/-- The number of rounds that fit into a time limit, and one at least. -/
def StopPolicy.mostRounds (policy : StopPolicy) (limit : Nat) : Nat :=
  max 1 ((limit + (policy.pollInterval - 1)) / policy.pollInterval)

/-- The number of rounds after which a time limit ends the next query.  As many rounds as are
counted as none do not end it. -/
def StopPolicy.lastRound (policy : StopPolicy) (limit : Nat) : Nat :=
  if UInt32.size ∣ policy.mostRounds limit then policy.mostRounds limit + 1
  else policy.mostRounds limit

section Fitting

variable {policy : StopPolicy} {limit made : Nat}

/-- As long as the pauses have not used the limit up, one more round fits in. -/
theorem StopPolicy.lt_mostRounds_iff (hpoll : 0 < policy.pollInterval) :
    made < policy.mostRounds limit ↔ made = 0 ∨ made * policy.pollInterval < limit := by
  have hfits : made < (limit + (policy.pollInterval - 1)) / policy.pollInterval ↔
      made * policy.pollInterval < limit := by
    rw [Nat.lt_iff_add_one_le, Nat.le_div_iff_mul_le hpoll, Nat.add_one_mul]
    omega
  rw [← hfits, mostRounds]
  omega

/-- One more round is made as long as the rounds count as none or the limit is not used up. -/
theorem StopPolicy.lt_lastRound_iff (hpoll : 0 < policy.pollInterval)
    (hmade : made ≤ policy.lastRound limit) :
    made < policy.lastRound limit ↔
      UInt32.size ∣ made ∨ made * policy.pollInterval < limit := by
  have hfits : made < policy.mostRounds limit ↔
      made = 0 ∨ made * policy.pollInterval < limit := lt_mostRounds_iff hpoll
  unfold lastRound UInt32.size at *
  split at hmade <;> rename_i hnone
  · rw [if_pos hnone]
    omega
  · rw [if_neg hnone]
    omega

end Fitting

namespace Act

variable {σ τ : Type} {clock : Clock τ} {time : τ → Nat} {duration : Nat}

theorem stopLaw_time (manager : Manager σ) (htime : clock.KeepsTime time duration) :
    StopLaw manager clock fun first _ last => time first.clock ≤ time last.clock where
  nothing _ := Nat.le_refl _
  append := Nat.le_trans
  moved _ hlast := hlast
  said _ scene := htime.stamp scene.clock
  trapped _ scene := htime.stamp scene.clock
  told scene := Nat.le_trans (htime.le_now scene.clock) (htime.now_le scene.clock)
  paused other scene := htime.le_pause other scene.clock
  listed _ _ := Nat.le_refl _
  disabled _ _ := Nat.le_refl _
  bootedOut _ _ := Nat.le_refl _

end Act

/-! ## Queries and requests -/

namespace Event

def isQuery : Event → Bool
  | .listed _ _ => true
  | _ => false

def isDisable : Event → Bool
  | .disabled _ _ => true
  | _ => false

def isBootOut : Event → Bool
  | .bootedOut _ _ => true
  | _ => false

/-- The fault that the manager answers with. -/
def fault? : Event → Option Fault
  | .listed _ (.error fault) | .disabled _ (.error fault) | .bootedOut _ (.error fault) =>
      some fault
  | _ => none

end Event

section Shapes

variable {log : RunLog} {policy : StopPolicy} {service : Service} {events : List Event}

/-- One round of requests has at most one request of each kind, and no query. -/
theorem Requesting.count {races : Count} {ending : Ending (Count × String)}
    (hrequest : Requesting log service races events ending) :
    events.countP Event.isQuery = 0 ∧ events.countP Event.isDisable = 1 ∧
      events.countP Event.isBootOut ≤ 1 ∧
      (∀ requested, ending = .done requested → events.countP Event.isBootOut = 1) := by
  cases hrequest <;>
    simp [List.countP_cons, Event.isQuery, Event.isDisable, Event.isBootOut]

/-- A query is followed by a request to disable and one to boot out, unless it is the last one. -/
theorem Stopping.count {report : StopReport} {last : String} {ending : Ending StopReport}
    (hstop : Stopping log policy service report last events ending) :
    events.countP Event.isBootOut ≤ events.countP Event.isDisable ∧
      events.countP Event.isQuery ≤ events.countP Event.isBootOut + 1 := by
  induction hstop with
  | absent | unknown | rehearsed | late | exhausted =>
      simp [List.countP_cons, Event.isQuery, Event.isDisable, Event.isBootOut]
  | denied _ hrequest =>
      obtain ⟨hquery, hdisable, hbootOut, -⟩ := hrequest.count
      simp [List.countP_cons, Event.isQuery, Event.isDisable, Event.isBootOut, hquery, hdisable,
        hbootOut]
  | interrupted _ hrequest =>
      obtain ⟨hquery, hdisable, -, hbootOut⟩ := hrequest.count
      have hdone := hbootOut _ rfl
      simp [List.countP_cons, List.countP_append, Event.isQuery, Event.isDisable, Event.isBootOut,
        hquery, hdisable, hdone]
  | round _ hrequest _ ih =>
      obtain ⟨hquery, hdisable, -, hbootOut⟩ := hrequest.count
      have hdone := hbootOut _ rfl
      simp [List.countP_cons, List.countP_append, Event.isQuery, Event.isDisable, Event.isBootOut,
        hquery, hdisable, hdone]
      omega

end Shapes

/-! ## Keeping to the limit -/

section InTime

variable {σ τ : Type}

/-- A wait that was measured from `started` on, by the last look at the clock. -/
def Clock.Measured (clock : Clock τ) (started waited : Nat) (last : Scene σ τ) : Prop :=
  ∃ state, waited = (clock.now state).1 - started ∧
    last.clock = (clock.stamp (clock.now state).2).2

/-- At most `left` rounds of requests are made, it takes no more rounds than that, and a timeout
that is not an answer of the manager tells of a wait that was measured. -/
structure Performance.InTime (clock : Clock τ) (started rounds left : Nat)
    (performed : Performance σ τ StopReport) : Prop where
  disabled_le : performed.events.countP Event.isDisable ≤ left
  ends : left < rounds → performed.ending ≠ .halted .exhausted
  measured : ∀ name waited command origin,
    performed.ending = .failed (.stopTimeout name waited command origin) →
      (∃ event ∈ performed.events,
        event.fault? = some (.stopTimeout name waited command origin)) ∨
      clock.Measured started waited performed.scene

namespace Performance.InTime

variable {clock : Clock τ} {started rounds left : Nat}

/-- More rounds may be made once these events have come before. -/
theorem precededBy {made : Nat} {events : List Event} {performed : Performance σ τ StopReport}
    (hmade : events.countP Event.isDisable ≤ made)
    (htime : performed.InTime clock started rounds left) :
    (performed.precededBy events).InTime clock started (rounds + made) (left + made) where
  disabled_le := by
    rw [Performance.precededBy, List.countP_append, Nat.add_comm left]
    exact Nat.add_le_add hmade htime.disabled_le
  ends hleft := htime.ends (Nat.lt_of_add_lt_add_right hleft)
  measured name waited command origin hending := by
    obtain ⟨event, hevent, hfault⟩ | hmeasured := htime.measured name waited command origin hending
    · exact .inl ⟨event, List.mem_append_right _ hevent, hfault⟩
    · exact .inr hmeasured

/-- What is no request may come before. -/
theorem precededBy_quiet {events : List Event} {performed : Performance σ τ StopReport}
    (hquiet : events.countP Event.isDisable = 0)
    (htime : performed.InTime clock started rounds left) :
    (performed.precededBy events).InTime clock started rounds left :=
  precededBy (Nat.le_of_eq hquiet) htime

/-- What ends with something else than a timeout, and not for want of rounds. -/
theorem of_ending {ending : Ending StopReport} {events : List Event} {last : Scene σ τ}
    (hdisabled : events.countP Event.isDisable ≤ left) (hending : ending ≠ .halted .exhausted)
    (hfault : ∀ fault, ending = .failed fault → (∃ event ∈ events, event.fault? = some fault) ∨
      ∀ name waited command origin, fault ≠ .stopTimeout name waited command origin) :
    Performance.InTime clock started rounds left ⟨ending, events, last⟩ where
  disabled_le := hdisabled
  ends _ := hending
  measured name waited command origin htimeout :=
    .inl ((hfault _ htimeout).resolve_right fun hother => hother name waited command origin rfl)

end Performance.InTime

/-- The fault of a request that is denied is the manager's own, or that of a code. -/
theorem Requesting.fault {log : RunLog} {service : Service} {races : Count} {events : List Event}
    {fault : Fault} (hrequest : Requesting log service races events (.failed fault)) :
    (∃ event ∈ events, event.fault? = some fault) ∨
      ∀ name waited command origin, fault ≠ .stopTimeout name waited command origin := by
  cases hrequest with
  | notDisabled hdenied =>
      cases hdenied with
      | error => exact .inl ⟨.disabled service (.error fault), by simp, rfl⟩
      | code => exact .inr nofun
  | notBootedOut _ hdenied =>
      cases hdenied with
      | error => exact .inl ⟨.bootedOut service (.error fault), by simp, rfl⟩
      | code => exact .inr nofun

namespace Act

/-! ### Round by round -/

section Rounds

variable {manager : Manager σ} {clock : Clock τ} {time : τ → Nat} {policy : StopPolicy}
variable {service : Service} {started rounds left limit : Nat} {scene : Scene σ τ}

/-- When what follows a pause keeps to its time, so does the pause. -/
theorem inTime_pause_bind {next : Unit → Act σ τ StopReport} {duration : Nat}
    (hnext : (next () { scene with clock := (clock.pause duration scene.clock).2 }).InTime clock
      started rounds left) :
    ((pause clock duration >>= next) scene).InTime clock started rounds left := by
  cases hsignal : (clock.pause duration scene.clock).1 with
  | none =>
      have hpause : pause clock duration scene = ⟨.done (), [.paused duration],
          { scene with clock := (clock.pause duration scene.clock).2 }⟩ := by
        simp [pause, hsignal]
      rw [bind_of_done hpause]
      exact .precededBy_quiet rfl hnext
  | some signal =>
      have hpause : pause clock duration scene = ⟨.halted (.signal signal), [.paused duration],
          { scene with clock := (clock.pause duration scene.clock).2 }⟩ := by
        simp [pause, hsignal]
      rw [bind_of_halted hpause]
      exact .of_ending (Nat.zero_le _) nofun nofun

/-- A round of requests is one round. -/
theorem inTime_request_bind {duration : Nat} (htime : clock.KeepsTime time duration) {races : Count}
    {next : Count × String → Act σ τ StopReport}
    (hnext : ∀ requested middle, time scene.clock ≤ time middle.clock →
      (next requested middle).InTime clock started rounds left) :
    ((request manager clock service races >>= next) scene).InTime clock started (rounds + 1)
      (left + 1) := by
  have hshape := (shows_request manager clock service races scene ⟨rfl, rfl⟩).1
  have hlater := obeys_request (stopLaw_time manager htime) service races scene
  rcases done_or_cuts StopReport (request manager clock service races) scene with
    ⟨requested, events, middle, hrequest⟩ | ⟨ending, events, last, other, hrequest, hcut⟩
  · rw [hrequest] at hshape hlater
    rw [bind_of_done hrequest]
    have hcount : events.countP Event.isDisable ≤ 1 := Nat.le_of_eq hshape.count.2.1
    exact .precededBy hcount (hnext requested middle hlater)
  · rw [hrequest] at hshape
    rw [bind_of_cut hrequest hcut]
    have hcount : events.countP Event.isDisable ≤ left + 1 :=
      Nat.le_trans (Nat.le_of_eq hshape.count.2.1) (Nat.le_add_left 1 left)
    cases hcut with
    | failed fault =>
        refine .of_ending hcount nofun ?_
        rintro fault ⟨⟩
        exact hshape.fault
    | halted reason => cases hshape

/-- Stopping goes on after the look at the clock only if there is room for one more round. -/
theorem inTime_checkTimeout_bind {report : StopReport} {lastCommand : String}
    {next : Unit → Act σ τ StopReport} (hlimit : policy.timeout = some limit)
    (hnext : (0 < report.passes → (clock.now scene.clock).1 - started < limit) →
      (next () { scene with clock := (clock.now scene.clock).2 }).InTime clock started rounds
        left) :
    ((checkTimeout clock policy service started report lastCommand >>= next) scene).InTime clock
      started rounds left := by
  rw [checkTimeout_bind hlimit]
  dsimp only
  split
  · exact
      { disabled_le := Nat.zero_le _
        ends := nofun
        measured := by
          rintro name waited command origin ⟨⟩
          exact .inr ⟨scene.clock, rfl, rfl⟩ }
  · rename_i hearly
    exact hnext fun hpasses => Nat.lt_of_not_le fun hwaited => hearly ⟨hpasses, hwaited⟩

/-- From one query to the next: the limit ends it, or there is room for the requests of one more
round, and after the pause the time of that round has passed as well. -/
theorem inTime_stopRounds (hdry : policy.dryRun = false) (hlimit : policy.timeout = some limit)
    (hpoll : 0 < policy.pollInterval) (htime : clock.KeepsTime time policy.pollInterval)
    {report : StopReport} {lastCommand : String} {made : Nat} (hcount : report.passes = .ofNat made)
    (hleft : made + left = policy.lastRound limit)
    (hspent : started + made * policy.pollInterval ≤ time scene.clock) :
    (stopRounds manager clock policy service started rounds report lastCommand scene).InTime
      clock started rounds left := by
  induction rounds generalizing left report lastCommand made scene with
  | zero => exact ⟨Nat.zero_le _, fun h => absurd h (Nat.not_lt_zero _), nofun⟩
  | succ rounds ih =>
      cases hanswer : (manager.isLoaded service scene.files scene.manager).1 with
      | error fault =>
          rw [stopRounds_of_error hanswer]
          refine .of_ending (Nat.zero_le _) nofun ?_
          rintro fault ⟨⟩
          exact .inl ⟨_, List.mem_cons_self, rfl⟩
      | ok loaded =>
          cases loaded with
          | false =>
              rw [stopRounds_of_absent hanswer]
              exact .of_ending (Nat.zero_le _) nofun nofun
          | true =>
              rw [stopRounds_of_loaded hdry hanswer]
              refine .precededBy_quiet rfl ?_
              refine inTime_checkTimeout_bind hlimit fun hearly => ?_
              have hroom : made < policy.lastRound limit := by
                rw [StopPolicy.lt_lastRound_iff hpoll (by omega)]
                by_cases hnone : UInt32.size ∣ made
                · exact .inl hnone
                · have hpasses : 0 < report.passes := by
                    rwa [UInt32.pos_iff_ne_zero, hcount, ne_eq, Count.ofNat_eq_zero_iff]
                  have hwaited := hearly hpasses
                  have hnow := htime.le_now scene.clock
                  exact .inr (by dsimp only [Scene.asked] at hwaited; omega)
              obtain ⟨left, rfl⟩ : ∃ fewer, left = fewer + 1 :=
                Nat.exists_eq_add_one_of_ne_zero (by omega)
              rw [bind_of_done (say_eq _ _ _)]
              refine .precededBy_quiet rfl ?_
              refine inTime_request_bind htime fun requested middle hrequested => ?_
              refine inTime_pause_bind ?_
              rw [bind_of_done (say_eq _ _ _)]
              refine .precededBy_quiet rfl ?_
              have hcount' : report.passes + 1 = .ofNat (made + 1) := by
                rw [hcount, Count.ofNat_succ]
              refine ih hcount' (by omega) ?_
              calc
                started + (made + 1) * policy.pollInterval =
                    started + made * policy.pollInterval + policy.pollInterval := by
                  rw [Nat.add_one_mul, Nat.add_assoc]
                _ ≤ time (clock.now scene.clock).2 + policy.pollInterval := by
                  have hnow := htime.le_now scene.clock
                  have hread := htime.now_le scene.clock
                  omega
                _ ≤ time middle.clock + policy.pollInterval :=
                  Nat.add_le_add_right (Nat.le_trans (htime.stamp _) hrequested) _
                _ ≤ time (clock.pause policy.pollInterval middle.clock).2 := htime.pause _
                _ ≤ _ := htime.stamp _

end Rounds

end Act

end InTime

/-! ## The limit as a whole -/

section Limit

variable {σ τ : Type}

/-- The manager answered its last call with this fault. -/
def Performance.PassesOn (performed : Performance σ τ StopReport) (fault : Fault) : Prop :=
  ∃ earlier call, (Transcript.of performed.events).calls = earlier ++ [call] ∧
    call.fault? = some fault

/-- The service is given up: full rounds were made, the last query found it still loaded, and the
wait that was measured then had come to the limit. -/
structure Performance.GivesUp (clock : Clock τ) (service : Service) (limit : Nat)
    (start : Scene σ τ) (performed : Performance σ τ StopReport) (name : String) (waited : Nat)
    (command : String) (turns : List Round) : Prop where
  calls : (Transcript.of performed.events).calls =
    turns.flatMap (Round.calls service) ++ [.listed service (.ok true)]
  turns_ne_nil : turns ≠ []
  limit_le : limit ≤ waited
  measured : clock.Measured (clock.now start.clock).1 waited performed.scene
  name : name = service.name
  command : command = Round.lastCommand turns

/-- A service is stopped within its limit, and not given up before it. -/
structure Performance.KeepsLimit (clock : Clock τ) (policy : StopPolicy) (service : Service)
    (limit : Nat) (start : Scene σ τ) (performed : Performance σ τ StopReport) : Prop where
  ends : performed.ending ≠ .halted .exhausted
  disabled_le : performed.events.countP Event.isDisable ≤ policy.lastRound limit
  bootedOut_le :
    performed.events.countP Event.isBootOut ≤ performed.events.countP Event.isDisable
  listed_le :
    performed.events.countP Event.isQuery ≤ performed.events.countP Event.isBootOut + 1
  late : ∀ name waited command origin,
    performed.ending = .failed (.stopTimeout name waited command origin) →
      performed.PassesOn (.stopTimeout name waited command origin) ∨
      ∃ turns, performed.GivesUp clock service limit start name waited command turns
  absent : .listed service (.ok false) ∈ performed.events →
    ∃ turns : List Round, (Transcript.of performed.events).calls =
        turns.flatMap (Round.calls service) ++ [.listed service (.ok false)] ∧
      performed.ending = .done
        { wasRunning := !turns.isEmpty
          passes := .ofNat turns.length
          benignRaces := .ofNat (countRaces (turns.flatMap Round.outputs)) }

section Shapes

variable {log : RunLog} {policy : StopPolicy} {service : Service} {events : List Event}

/-- A query that finds the service not loaded is the last one. -/
theorem Stopping.exists_done {report : StopReport} {last : String} {ending : Ending StopReport}
    (hstop : Stopping log policy service report last events ending)
    (habsent : .listed service (.ok false) ∈ events) : ∃ final, ending = .done final := by
  have hrequests {races : Count} {events : List Event} {ending : Ending (Count × String)}
      (hrequest : Requesting log service races events ending) :
      .listed service (.ok false) ∉ events := by
    cases hrequest <;> simp
  induction hstop with
  | absent => exact ⟨_, rfl⟩
  | unknown | rehearsed | late | exhausted => simp at habsent
  | denied _ hrequest => simp [hrequests hrequest] at habsent
  | interrupted _ hrequest => simp [hrequests hrequest] at habsent
  | round _ hrequest _ ih =>
      refine ih ?_
      simpa [hrequests hrequest] using habsent

/-- The calls of full rounds are answered without a fault. -/
theorem Round.fault?_eq_none {turns : List Round} {call : Event}
    (hcall : call ∈ turns.flatMap (Round.calls service)) : call.fault? = none := by
  obtain ⟨round, -, hround⟩ := List.mem_flatMap.mp hcall
  simp only [Round.calls, List.mem_cons, List.not_mem_nil, or_false] at hround
  obtain rfl | rfl | rfl := hround <;> rfl

theorem Event.isCall_of_fault? {event : Event} {fault : Fault}
    (hfault : event.fault? = some fault) : event.isCall := by
  cases event <;> first | rfl | cases hfault

/-- A timeout is an answer of the manager to its last call, or the service was given up. -/
theorem Stopping.givesUp {clock : Clock τ} {limit : Nat} {start : Scene σ τ}
    {performed : Performance σ τ StopReport} {name : String} {waited : Nat} {command : String}
    {origin : Origin} (hdry : policy.dryRun = false) (hlimit : policy.timeout = some limit)
    (hstop : Stopping log policy service {} "" performed.events performed.ending)
    (hending : performed.ending = .failed (.stopTimeout name waited command origin))
    (hmeasured : (∃ event ∈ performed.events,
        event.fault? = some (.stopTimeout name waited command origin)) ∨
      clock.Measured (clock.now start.clock).1 waited performed.scene) :
    performed.PassesOn (.stopTimeout name waited command origin) ∨
      ∃ turns, performed.GivesUp clock service limit start name waited command turns := by
  obtain ⟨turns, calls, messages, hcloses⟩ :=
    hstop.exists_closesAfter hdry (by simp [hending])
  obtain ⟨hclosing, hcalls, -, -⟩ := hcloses
  rw [hending] at hclosing
  cases hclosing with
  | unknown => exact .inl ⟨_, _, hcalls, rfl⟩
  | late hrounds hlimit' hwaited hfault =>
      cases hfault
      obtain rfl : limit = _ := Option.some.inj (hlimit.symm.trans hlimit')
      have hnone (event : Event) (hevent : event ∈ performed.events) (fault : Fault)
          (hfault : event.fault? = some fault) : False := by
        have hcall : event ∈ (Transcript.of performed.events).calls :=
          List.mem_filter.mpr ⟨hevent, Event.isCall_of_fault? hfault⟩
        rw [hcalls, List.mem_append, List.mem_singleton] at hcall
        obtain hround | rfl := hcall
        · rw [Round.fault?_eq_none hround] at hfault
          cases hfault
        · cases hfault
      have hmeasured := hmeasured.resolve_left fun ⟨event, hevent, hfault⟩ =>
        hnone event hevent _ hfault
      exact .inr ⟨turns, hcalls, hrounds, hwaited, hmeasured, rfl, rfl⟩
  | notDisabled hdenied =>
      cases hdenied
      exact .inl ⟨_ ++ [_], _, by simpa using hcalls, rfl⟩
  | notBootedOut _ hdenied =>
      cases hdenied
      exact .inl ⟨_ ++ [_, _], _, by simpa using hcalls, rfl⟩

end Shapes

namespace Act

/-- Under a time limit stopping a service comes to an end, whatever the manager answers. -/
theorem stop_keepsLimit (manager : Manager σ) (clock : Clock τ) (policy : StopPolicy)
    (service : Service) (scene : Scene σ τ) (time : τ → Nat) (limit : Nat)
    (hdry : policy.dryRun = false) (hlimit : policy.timeout = some limit)
    (hpoll : 0 < policy.pollInterval) (htime : clock.KeepsTime time policy.pollInterval) :
    ∃ performed, performed.KeepsLimit clock policy service limit scene ∧
      ∀ rounds, policy.lastRound limit < rounds →
        stop manager clock policy rounds service scene = performed := by
  have hspent : (clock.now scene.clock).1 + 0 * policy.pollInterval ≤
      time (clock.now scene.clock).2 := by
    simpa using htime.now_le scene.clock
  have hrounds : (stop manager clock policy (policy.lastRound limit + 1) service scene).InTime
      clock (clock.now scene.clock).1 (policy.lastRound limit + 1) (policy.lastRound limit) := by
    have hnow : now clock scene = ⟨.done (clock.now scene.clock).1, [],
        { scene with clock := (clock.now scene.clock).2 }⟩ := rfl
    rw [stop, bind_of_done hnow]
    exact .precededBy_quiet rfl
      (inTime_stopRounds hdry hlimit hpoll htime rfl (Nat.zero_add _) hspent)
  have hstop := (shows_stop manager clock policy (policy.lastRound limit + 1) service scene
    ⟨rfl, rfl⟩).1
  have hends := hrounds.ends (Nat.lt_succ_self _)
  have hsame : ∀ rounds, policy.lastRound limit < rounds →
      stop manager clock policy rounds service scene =
        stop manager clock policy (policy.lastRound limit + 1) service scene := by
    intro rounds hmore
    apply extends_stop manager clock policy service hmore
    rintro reason hhalted rfl
    exact hends hhalted
  refine ⟨_, ?_, hsame⟩
  exact
    { ends := hends
      disabled_le := hrounds.disabled_le
      bootedOut_le := hstop.count.1
      listed_le := hstop.count.2
      late := fun name waited command origin hending =>
        hstop.givesUp hdry hlimit hending (hrounds.measured name waited command origin hending)
      absent := by
        intro habsent
        obtain ⟨final, hfinal⟩ := hstop.exists_done habsent
        rw [hfinal] at hstop ⊢
        obtain ⟨turns, htold, rfl⟩ := hstop.exists_rounds hdry
        refine ⟨turns, congrArg Transcript.calls htold, ?_⟩
        simp [Round.addTo] }

open Rehearsal

theorem keepsTime_rehearsal (duration : Nat) : Time.clock.KeepsTime Time.elapsed duration where
  le_now _ := Nat.le_refl _
  now_le _ := Nat.le_refl _
  stamp _ := Nat.le_refl _
  le_pause _ _ := Nat.le_add_right _ _
  pause _ := Nat.le_refl _

/-- Three pauses of 50 ms use up a limit of 120 ms. -/
theorem stop_keepsLimit_stubborn :
    let scene : Scene Scripted Time :=
      { manager.script := { loaded := [("com.saltstack.salt.minion", 9)] }
        clock := {}
        files := FileSystem.empty.makeDirectory (.ofString "/tmp")
        log := .opened Config.defaultLogPath "preinstall"
        progress := .fresh }
    let policy : StopPolicy := ⟨50, some 120, false⟩
    let service := Service.ofRole "minion"
    let command := "launchctl bootout system " ++ service.definition.display
    policy.lastRound 120 = 3 ∧
      (stop Scripted.manager Time.clock policy 4 service scene).ending =
        .failed (.stopTimeout "salt-minion" 150 command .stopping) ∧
      ∃ performed, performed.KeepsLimit Time.clock policy service 120 scene ∧
        ∀ rounds, policy.lastRound 120 < rounds →
          stop Scripted.manager Time.clock policy rounds service scene = performed :=
  ⟨rfl, rfl, stop_keepsLimit _ _ _ _ _ _ _ rfl rfl (by decide) (keepsTime_rehearsal 50)⟩

/-! ## The bound is reached -/

/-- A manager that accepts every request and keeps every service loaded. -/
def stubborn : Manager Unit where
  isLoaded _ _ state := (.ok true, state)
  disable service _ state := (.ok ⟨"disable " ++ service.label, some 0, ""⟩, state)
  bootOut service _ state := (.ok ⟨"bootout " ++ service.label, some 0, ""⟩, state)

section Stubborn

variable {policy : StopPolicy} {service : Service} {started rounds limit : Nat}
variable {report : StopReport} {lastCommand : String} {scene : Scene Unit Time}

/-- Before the limit is used up there is a full round, in which only the pause takes time. -/
theorem stopRounds_stubborn (service : Service) (rounds : Nat) (lastCommand : String)
    (hdry : policy.dryRun = false) (hlimit : policy.timeout = some limit)
    (hearly : ¬(0 < report.passes ∧ limit ≤ scene.clock.elapsed - started))
    (hsignal : scene.clock.signal = none) :
    ∃ report' command events, ∃ next : Scene Unit Time,
      stopRounds stubborn Time.clock policy service started (rounds + 1) report lastCommand scene =
        (stopRounds stubborn Time.clock policy service started rounds report' command
          next).precededBy events ∧
      report'.passes = report.passes + 1 ∧ events.countP Event.isDisable = 1 ∧
      next.clock = ⟨scene.clock.elapsed + policy.pollInterval, none⟩ := by
  have hrequest (races : Count) (scene : Scene Unit Time) :
      request stubborn Time.clock service races scene =
        ⟨.done (races, "bootout " ++ service.label),
          [.disabled service (.ok ⟨"disable " ++ service.label, some 0, ""⟩),
            .bootedOut service (.ok ⟨"bootout " ++ service.label, some 0, ""⟩)], scene⟩ := rfl
  have hpause (scene : Scene Unit Time) (hsignal : scene.clock.signal = none) :
      pause Time.clock policy.pollInterval scene =
        ⟨.done (), [.paused policy.pollInterval],
          { scene with clock := ⟨scene.clock.elapsed + policy.pollInterval, none⟩ }⟩ := by
    simp [pause, Time.clock, hsignal]
  have hasked : scene.asked stubborn service = scene := rfl
  have hnow : Time.clock.now scene.clock = (scene.clock.elapsed, scene.clock) := rfl
  rw [stopRounds_of_loaded hdry rfl, checkTimeout_bind hlimit, hasked, hnow]
  dsimp only
  rw [if_neg hearly, bind_of_done (say_eq _ _ _), bind_of_done (hrequest _ _),
    bind_of_done (hpause (say Time.clock _ scene).scene hsignal), bind_of_done (say_eq _ _ _)]
  exact ⟨_, _, [_, _, _, _, _, _], _, rfl, rfl, rfl, rfl⟩

/-- The service is not given up as long as one more round is left. -/
theorem early_iff_lt_lastRound (hpoll : 0 < policy.pollInterval) {made : Nat}
    (hcount : report.passes = .ofNat made) (hmade : made ≤ policy.lastRound limit)
    (hclock : scene.clock = ⟨started + made * policy.pollInterval, none⟩) :
    ¬(0 < report.passes ∧ limit ≤ scene.clock.elapsed - started) ↔
      made < policy.lastRound limit := by
  have hwaited : scene.clock.elapsed - started = made * policy.pollInterval := by
    rw [hclock]
    exact Nat.add_sub_cancel_left ..
  rw [StopPolicy.lt_lastRound_iff hpoll hmade, UInt32.pos_iff_ne_zero, hcount, ne_eq,
    Count.ofNat_eq_zero_iff, hwaited, not_and_or, not_not, Nat.not_le]

/-- With the limit used up there is no further request. -/
theorem countP_stopRounds_of_late (hdry : policy.dryRun = false)
    (hlimit : policy.timeout = some limit)
    (hlate : 0 < report.passes ∧ limit ≤ scene.clock.elapsed - started) :
    (stopRounds stubborn Time.clock policy service started (rounds + 1) report lastCommand
      scene).events.countP Event.isDisable = 0 := by
  have hasked : scene.asked stubborn service = scene := rfl
  have hnow : Time.clock.now scene.clock = (scene.clock.elapsed, scene.clock) := rfl
  rw [stopRounds_of_loaded hdry rfl, checkTimeout_bind hlimit, hasked, hnow]
  dsimp only
  rw [if_pos hlate]
  rfl

/-- As many rounds are made as the limit leaves. -/
theorem countP_stopRounds_stubborn (hdry : policy.dryRun = false)
    (hlimit : policy.timeout = some limit) (hpoll : 0 < policy.pollInterval) {made left : Nat}
    (hcount : report.passes = .ofNat made) (hleft : made + left = policy.lastRound limit)
    (hrounds : left < rounds)
    (hclock : scene.clock = ⟨started + made * policy.pollInterval, none⟩) :
    (stopRounds stubborn Time.clock policy service started rounds report lastCommand
      scene).events.countP Event.isDisable = left := by
  induction left generalizing made rounds report lastCommand scene with
  | zero =>
      obtain ⟨rounds, rfl⟩ := Nat.exists_eq_add_one_of_ne_zero (Nat.ne_zero_of_lt hrounds)
      apply countP_stopRounds_of_late hdry hlimit
      by_contra hearly
      have hroom := (early_iff_lt_lastRound hpoll hcount (Nat.le_of_eq hleft) hclock).mp hearly
      omega
  | succ left ih =>
      obtain ⟨rounds, rfl⟩ := Nat.exists_eq_add_one_of_ne_zero (Nat.ne_zero_of_lt hrounds)
      have hmade : made < policy.lastRound limit := by omega
      have hearly := (early_iff_lt_lastRound hpoll hcount (Nat.le_of_lt hmade) hclock).mpr hmade
      obtain ⟨report', command, events, next, hround, hpasses, hevents, hnext⟩ :=
        stopRounds_stubborn service rounds lastCommand hdry hlimit hearly (by rw [hclock])
      have hclock' : next.clock = ⟨started + (made + 1) * policy.pollInterval, none⟩ := by
        rw [hnext, hclock, Nat.add_one_mul, Nat.add_assoc]
      have hcount' : report'.passes = .ofNat (made + 1) := by
        rw [hpasses, hcount, Count.ofNat_succ]
      have hmore : (stopRounds stubborn Time.clock policy service started rounds report' command
          next).events.countP Event.isDisable = left := ih hcount' (by omega) (by omega) hclock'
      rw [hround, Performance.precededBy, List.countP_append, hevents, hmore, Nat.add_comm]

/-- The bound on the rounds is reached. -/
theorem countP_stop_stubborn (hdry : policy.dryRun = false) (hlimit : policy.timeout = some limit)
    (hpoll : 0 < policy.pollInterval) (hrounds : policy.lastRound limit < rounds)
    (hsignal : scene.clock.signal = none) :
    (stop stubborn Time.clock policy rounds service scene).events.countP Event.isDisable =
      policy.lastRound limit := by
  have hclock : scene.clock = ⟨scene.clock.elapsed + 0 * policy.pollInterval, none⟩ := by
    rw [Nat.zero_mul, Nat.add_zero, ← hsignal]
  exact countP_stopRounds_stubborn hdry hlimit hpoll rfl (Nat.zero_add _) hrounds hclock

end Stubborn

/-- Two ways to miss the limit.  If 2^32 rounds fit into it, they count as none, and one more is
made.  And a manager can itself answer with a timeout, of another service and another command: it is
passed on as it is, though the service is not given up. -/
theorem stop_misses_limit :
    (let policy : StopPolicy := ⟨1, some UInt32.size, false⟩
      let scene : Scene Unit Time :=
        { manager := ()
          clock := {}
          files := FileSystem.empty.makeDirectory (.ofString "/tmp")
          log := .opened Config.defaultLogPath "preinstall"
          progress := .fresh }
      Time.clock.KeepsTime Time.elapsed policy.pollInterval ∧
        policy.mostRounds UInt32.size = UInt32.size ∧
        ∀ rounds, UInt32.size + 1 < rounds →
          (stop stubborn Time.clock policy rounds (.ofRole "minion") scene).events.countP
            Event.isDisable = UInt32.size + 1) ∧
    (let fault : Fault := .stopTimeout "other" 0 "elsewhere" (.outside "driver")
      let scene : Scene Scripted Time :=
        { manager.script :=
            { loaded := [("com.saltstack.salt.minion", 2)]
              list := [("com.saltstack.salt.minion", [.ok true, .error fault])] }
          clock := {}
          files := FileSystem.empty.makeDirectory (.ofString "/tmp")
          log := .opened Config.defaultLogPath "preinstall"
          progress := .fresh }
      let policy : StopPolicy := ⟨1, some 0, false⟩
      let performed := stop Scripted.manager Time.clock policy 3 (.ofRole "minion") scene
      Time.clock.KeepsTime Time.elapsed policy.pollInterval ∧ performed.ending = .failed fault ∧
        ¬∃ turns, performed.GivesUp Time.clock (.ofRole "minion") 0 scene "other" 0 "elsewhere"
          turns) := by
  constructor
  · intro policy scene
    have hmost : policy.mostRounds UInt32.size = UInt32.size := by decide
    have hlast : policy.lastRound UInt32.size = UInt32.size + 1 := by
      rw [StopPolicy.lastRound, hmost, if_pos (Nat.dvd_refl _)]
    refine ⟨keepsTime_rehearsal 1, hmost, fun rounds hrounds => ?_⟩
    rw [← hlast] at hrounds ⊢
    exact countP_stop_stubborn rfl rfl (by decide) hrounds rfl
  · refine ⟨keepsTime_rehearsal 1, rfl, ?_⟩
    rintro ⟨turns, hgivesUp⟩
    exact absurd hgivesUp.name (by decide)

end Act

end Limit

end Decommission
