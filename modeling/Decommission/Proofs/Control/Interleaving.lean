import Decommission.Proofs.Control.Course
import Decommission.Proofs.Control.Registration

/-!
# Cancellations between other threads

However calls are registered, handles are given back and cancellations go on between one another,
each registration is taken by at most one cancellation.  Each cancellation does to the groups that
it took what it would do to them by itself.
-/

namespace Decommission

open Cancellation

/-! ## What was done -/

/-- What one of the cancellations did. -/
def deedsOf (index : Nat) (seen : List Happening) : List Deed :=
  seen.filterMap fun
    | .did other deed => if other = index then some deed else none
    | _ => none

/-- The groups that were asked to end, by whichever cancellation. -/
def askedGroups (seen : List Happening) : List Group :=
  seen.filterMap fun
    | .did _ (.asked group _) => some group
    | _ => none

/-- The groups for which handles were taken. -/
def trackedGroups (seen : List Happening) : List Group :=
  seen.filterMap fun
    | .tracked _ group => some group
    | _ => none

section Deeds

variable {seen more : List Happening} {index other : Nat} {deeds : List Deed}

theorem deedsOf_append : deedsOf index (seen ++ more) = deedsOf index seen ++ deedsOf index more :=
  List.filterMap_append

theorem askedGroups_append : askedGroups (seen ++ more) = askedGroups seen ++ askedGroups more :=
  List.filterMap_append

theorem trackedGroups_append :
    trackedGroups (seen ++ more) = trackedGroups seen ++ trackedGroups more :=
  List.filterMap_append

theorem deedsOf_did : deedsOf index (deeds.map (.did index)) = deeds := by
  simp [deedsOf, List.filterMap_map]

theorem deedsOf_did_of_ne (hne : other ≠ index) : deedsOf index (deeds.map (.did other)) = [] := by
  simp [deedsOf, hne]

theorem trackedGroups_did : trackedGroups (deeds.map (.did index)) = [] := by
  simp [trackedGroups]

end Deeds

/-! ## Requests and registrations -/

/-- The groups that a cancellation has still to ask. -/
def Phase.unasked : Phase → List Group
  | .asking pending _ => pending
  | .waiting _ _ | .probing _ _ _ | .killing _ => []

theorem Phase.Steps.count_unasked {γ : Type} {system : Groups γ} {state next : γ} {grace : Nat}
    {phase last : Phase} {deeds : List Deed}
    (hsteps : phase.Steps system state grace last next deeds) (index : Nat) (group : Group) :
    (askedGroups (deeds.map (.did index))).count group + last.unasked.count group =
      phase.unasked.count group := by
  cases hsteps with
  | asked =>
      simp only [askedGroups, unasked, List.map_cons, List.map_nil, List.filterMap_cons,
        List.filterMap_nil, List.count_cons, List.count_nil]
      omega
  | settled | rested | expired | probed | polled | killed => rfl

theorem count_flatMap_set {α β : Type} [DecidableEq β] {items : List α} {f : α → List β}
    {index : Nat} {old : α} (hindex : items[index]? = some old) (new : α) (value : β) :
    ((items.set index new).flatMap f).count value + (f old).count value =
      (items.flatMap f).count value + (f new).count value := by
  induction items generalizing index with
  | nil => simp at hindex
  | cons item items ih =>
      cases index with
      | zero =>
          obtain rfl : item = old := by simpa using hindex
          simp only [List.set_cons_zero, List.flatMap_cons, List.count_append]
          omega
      | succ index =>
          have hrest := ih (by simpa using hindex)
          simp only [List.set_cons_succ, List.flatMap_cons, List.count_append]
          omega

namespace Threads

variable {γ : Type} {system : Groups γ} {threads : Threads γ} {seen : List Happening}

/-- The requests that were made, those that are still to be made and the set come to no more than
the registrations. -/
def IsCovered (seen : List Happening) (threads : Threads γ) : Prop :=
  ∀ group, (askedGroups seen).count group +
    (threads.cancellations.flatMap (·.phase.unasked)).count group +
    threads.calls.groups.count group ≤ (trackedGroups seen).count group

theorem isCovered_fresh (state : γ) : IsCovered [] (fresh state) := by
  simp [IsCovered, fresh, Calls.none, askedGroups]

theorem IsCovered.step {move : Move γ} {result : Threads γ × List Happening}
    (hmakes : move.Makes system threads result) (hcovered : IsCovered seen threads) :
    IsCovered (seen ++ result.2) result.1 := by
  intro group
  have hpast := hcovered group
  rw [askedGroups_append, trackedGroups_append, List.count_append, List.count_append]
  cases hmakes with
  | @tracked other =>
      have hinsert := Calls.count_insert_le other threads.calls.groups group
      rw [List.count_cons] at hinsert
      simp only [askedGroups, trackedGroups, Calls.track, List.filterMap_cons, List.filterMap_nil,
        List.count_cons, List.count_nil] at hpast ⊢
      omega
  | @dropped handle other =>
      have hrelease : (threads.calls.release other).groups.count group ≤
          threads.calls.groups.count group := List.filter_sublist.count_le group
      simp only [askedGroups, trackedGroups, List.filterMap_cons, List.filterMap_nil,
        List.count_nil] at hpast ⊢
      omega
  | taken =>
      simp only [askedGroups, trackedGroups, Calls.none, Phase.unasked, List.filterMap_cons,
        List.filterMap_nil, List.count_nil, List.flatMap_append, List.flatMap_cons,
        List.flatMap_nil, List.append_nil, List.count_append] at hpast ⊢
      omega
  | @did index cancellation phase next deeds hindex hsteps =>
      have hunasked := hsteps.count_unasked index group
      have hset := count_flatMap_set (f := fun item : Cancellation => item.phase.unasked) hindex
        { cancellation with phase } group
      rw [trackedGroups_did, List.count_nil]
      dsimp only at hset ⊢
      omega
  | changed => simpa [askedGroups, trackedGroups] using hpast
  | idle => simpa [askedGroups, trackedGroups] using hpast

/-! ## Every cancellation keeps its course -/

/-- The cancellations, each on the course that began with what it took. -/
structure Conduct (seen : List Happening) (threads : Threads γ) : Prop where
  course : ∀ index groups, .taken index groups ∈ seen → ∃ cancellation,
    threads.cancellations[index]? = some cancellation ∧
    Course groups cancellation.phase (deedsOf index seen)
  taken : ∀ index cancellation, threads.cancellations[index]? = some cancellation →
    ∃ groups, .taken index groups ∈ seen
  none : ∀ index, threads.cancellations[index]? = none → deedsOf index seen = []
  begun : ∀ earlier index deed later, seen = earlier ++ .did index deed :: later →
    ∃ groups, .taken index groups ∈ earlier

theorem conduct_fresh (state : γ) : Conduct [] (fresh state) where
  course := by simp
  taken := by simp [fresh]
  none index hindex := rfl
  begun := by simp

section Conduct

variable {next : Threads γ} {happening : Happening}

/-- What is neither a taking nor a deed leaves the cancellations where they are. -/
theorem Conduct.other_step (hconduct : Conduct seen threads)
    (hcancellations : next.cancellations = threads.cancellations)
    (htaken : ∀ index groups, happening ≠ .taken index groups)
    (hdid : ∀ index deed, happening ≠ .did index deed) : Conduct (seen ++ [happening]) next := by
  have hmem (index : Nat) (groups : List Group) :
      .taken index groups ∈ seen ++ [happening] ↔ .taken index groups ∈ seen := by
    simp [(htaken index groups).symm]
  have hdeeds (index : Nat) : deedsOf index (seen ++ [happening]) = deedsOf index seen := by
    rw [deedsOf_append]
    cases happening with
    | did => exact absurd rfl (hdid _ _)
    | tracked | dropped | taken => exact List.append_nil _
  exact {
    course := fun index groups hgroups => by
      rw [hcancellations, hdeeds]
      exact hconduct.course index groups ((hmem index groups).mp hgroups)
    taken := fun index cancellation hindex => by
      rw [hcancellations] at hindex
      simpa only [hmem] using hconduct.taken index cancellation hindex
    none := fun index hindex => by
      rw [hcancellations] at hindex
      rw [hdeeds]
      exact hconduct.none index hindex
    begun := fun earlier index deed later heq => by
      obtain ⟨rest, rfl, -⟩ | ⟨-, hlast⟩ := concat_eq_append_cons heq
      · exact hconduct.begun earlier index deed rest rfl
      · exact absurd hlast (hdid index deed) }

theorem Conduct.taken_step (hconduct : Conduct seen threads) {grace : Nat} {groups : List Group}
    (hcancellations : next.cancellations =
      threads.cancellations ++ [⟨.asking groups [], grace⟩]) :
    Conduct (seen ++ [.taken threads.cancellations.length groups]) next := by
  have hdeeds (index : Nat) :
      deedsOf index (seen ++ [.taken threads.cancellations.length groups]) = deedsOf index seen := by
    rw [deedsOf_append]
    exact List.append_nil _
  exact {
    course := fun index others hothers => by
      rw [hcancellations, hdeeds]
      obtain hold | hnew := List.mem_append.mp hothers
      · obtain ⟨cancellation, hindex, hcourse⟩ := hconduct.course index others hold
        have hlt := (List.getElem?_eq_some_iff.mp hindex).1
        exact ⟨cancellation, by rwa [List.getElem?_append_left hlt], hcourse⟩
      · cases List.mem_singleton.mp hnew
        rw [hconduct.none _ (List.getElem?_eq_none (Nat.le_refl _))]
        exact ⟨_, List.getElem?_concat_length, @Course.asking groups [] groups rfl⟩
    taken := fun index cancellation hindex => by
      rw [hcancellations] at hindex
      obtain hlt | heq := Nat.lt_or_eq_of_le (Nat.le_of_lt_succ (by
        simpa using (List.getElem?_eq_some_iff.mp hindex).1))
      · rw [List.getElem?_append_left hlt] at hindex
        obtain ⟨others, hothers⟩ := hconduct.taken index cancellation hindex
        exact ⟨others, List.mem_append_left _ hothers⟩
      · subst heq
        exact ⟨groups, by simp⟩
    none := fun index hindex => by
      rw [hcancellations, List.getElem?_eq_none_iff, List.length_append] at hindex
      rw [hdeeds]
      exact hconduct.none index (List.getElem?_eq_none (by omega))
    begun := fun earlier index deed later heq => by
      obtain ⟨rest, rfl, -⟩ | ⟨-, hlast⟩ := concat_eq_append_cons heq
      · exact hconduct.begun earlier index deed rest rfl
      · cases hlast }

theorem Conduct.did_step (hconduct : Conduct seen threads) {index : Nat}
    {cancellation : Cancellation} {phase : Phase} {state : γ} {deeds : List Deed}
    (hindex : threads.cancellations[index]? = some cancellation)
    (hsteps : cancellation.phase.Steps system threads.system cancellation.grace phase state deeds)
    (hcancellations : next.cancellations =
      threads.cancellations.set index { cancellation with phase }) :
    Conduct (seen ++ deeds.map (.did index)) next := by
  have hmem (other : Nat) (groups : List Group) :
      .taken other groups ∈ seen ++ deeds.map (.did index) ↔ .taken other groups ∈ seen := by
    simp
  have hlt := (List.getElem?_eq_some_iff.mp hindex).1
  exact {
    course := fun other groups hgroups => by
      obtain ⟨old, hold, hcourse⟩ := hconduct.course other groups ((hmem other groups).mp hgroups)
      rw [hcancellations, deedsOf_append]
      by_cases hother : index = other
      · subst hother
        obtain rfl : cancellation = old := Option.some.inj (hindex.symm.trans hold)
        rw [deedsOf_did]
        exact ⟨_, List.getElem?_set_self hlt, hcourse.step hsteps⟩
      · rw [deedsOf_did_of_ne hother, List.append_nil, List.getElem?_set_ne hother]
        exact ⟨old, hold, hcourse⟩
    taken := fun other last hother => by
      have hbound := (List.getElem?_eq_some_iff.mp hother).1
      rw [hcancellations, List.length_set] at hbound
      simpa only [hmem] using hconduct.taken other _ (List.getElem?_eq_getElem hbound)
    none := fun other hother => by
      rw [hcancellations, List.getElem?_eq_none_iff, List.length_set] at hother
      rw [deedsOf_append, hconduct.none other (List.getElem?_eq_none hother),
        deedsOf_did_of_ne (by omega), List.append_nil]
    begun := fun earlier other deed later heq => by
      obtain ⟨rest, rfl, -⟩ | ⟨start, rfl, hstart⟩ := append_eq_append_cons heq
      · exact hconduct.begun earlier other deed rest rfl
      · have hdeed : Happening.did other deed ∈ deeds.map (.did index) := by simp [hstart]
        obtain ⟨deed', -, heq'⟩ := List.mem_map.mp hdeed
        cases heq'
        obtain ⟨groups, hgroups⟩ := hconduct.taken index cancellation hindex
        exact ⟨groups, List.mem_append_left _ hgroups⟩ }

theorem Conduct.step {move : Move γ} {result : Threads γ × List Happening}
    (hmakes : move.Makes system threads result) (hconduct : Conduct seen threads) :
    Conduct (seen ++ result.2) result.1 := by
  cases hmakes with
  | tracked => exact hconduct.other_step rfl (by simp) (by simp)
  | dropped => exact hconduct.other_step rfl (by simp) (by simp)
  | taken => exact hconduct.taken_step rfl
  | did hindex hsteps => exact hconduct.did_step hindex hsteps rfl
  | changed =>
      rw [List.append_nil]
      exact { hconduct with }
  | idle =>
      rw [List.append_nil]
      exact hconduct

end Conduct

/-! ## Without a grace period -/

/-- No cancellation without a grace period has looked for its groups. -/
def IsHasty (time : γ → Nat) (seen : List Happening) (threads : Threads γ) : Prop :=
  ∀ index (cancellation : Cancellation), threads.cancellations[index]? = some cancellation →
    cancellation.grace = 0 →
    Cancellation.IsHasty (time threads.system) cancellation.phase ∧
      ∀ deed ∈ deedsOf index seen, ¬deed.IsLook

/-- The clock does not go back by itself either. -/
def GoesForward (time : γ → Nat) : Move γ → Prop
  | .meanwhile change => ∀ state, time state ≤ time (change state)
  | .track _ | .drop _ | .cancel _ | .proceed _ => True

theorem IsHasty.step {time : γ → Nat} (htime : system.KeepsTime time) {move : Move γ}
    (hforward : GoesForward time move) {result : Threads γ × List Happening}
    (hmakes : move.Makes system threads result) (hconduct : Conduct seen threads)
    (hhasty : IsHasty time seen threads) : IsHasty time (seen ++ result.2) result.1 := by
  intro other last hother hgrace
  rw [deedsOf_append]
  cases hmakes with
  | tracked => simpa [deedsOf] using hhasty other last hother hgrace
  | dropped => simpa [deedsOf] using hhasty other last hother hgrace
  | taken =>
      have hdeeds : deedsOf other
          [.taken threads.cancellations.length threads.calls.groups] = [] := rfl
      rw [hdeeds, List.append_nil]
      by_cases hlt : other < threads.cancellations.length
      · rw [List.getElem?_append_left hlt] at hother
        exact hhasty other last hother hgrace
      · have hnew := (List.getElem?_append_right (Nat.le_of_not_lt hlt)).symm.trans hother
        have hasking : last ∈ [⟨.asking threads.calls.groups [], _⟩] := List.mem_of_getElem? hnew
        cases List.mem_singleton.mp hasking
        rw [hconduct.none other (List.getElem?_eq_none (Nat.le_of_not_lt hlt))]
        exact ⟨trivial, by simp⟩
  | @did index cancellation phase next deeds hindex hsteps =>
      have hlt := (List.getElem?_eq_some_iff.mp hindex).1
      by_cases heq : index = other
      · subst heq
        obtain rfl : { cancellation with phase } = last :=
          Option.some.inj ((List.getElem?_set_self hlt).symm.trans hother)
        obtain ⟨hphase, hlooks⟩ := hhasty index cancellation hindex hgrace
        rw [hgrace] at hsteps
        obtain ⟨hnext, hdeeds⟩ := hphase.step htime hsteps
        rw [deedsOf_did]
        refine ⟨hnext, fun deed hmem => ?_⟩
        exact (List.mem_append.mp hmem).elim (hlooks deed) (hdeeds deed)
      · have hold := (List.getElem?_set_ne heq).symm.trans hother
        obtain ⟨hphase, hlooks⟩ := hhasty other last hold hgrace
        rw [deedsOf_did_of_ne heq, List.append_nil]
        exact ⟨hphase.mono (time_le htime hsteps), hlooks⟩
  | changed =>
      obtain ⟨hphase, hlooks⟩ := hhasty other last hother hgrace
      exact ⟨hphase.mono (hforward threads.system), by simpa [deedsOf] using hlooks⟩
  | idle => simpa [deedsOf] using hhasty other last hother hgrace

/-! ## All cancellations together -/

/-- What the cancellations make of the registrations. -/
structure Cancels (seen : List Happening) (threads : Threads γ) : Prop where
  taken : TakesRegistered seen
  /-- What a later cancellation takes was registered after the earlier one had begun. -/
  takenOnce : ∀ earlier index groups between other others later,
    seen = earlier ++ .taken index groups :: (between ++ .taken other others :: later) →
    ∀ group ∈ others, ∃ handle, .tracked handle group ∈ between
  askedOnce : ∀ group, (askedGroups seen).count group ≤ (trackedGroups seen).count group
  /-- A cancellation does nothing before it has taken its groups. -/
  begun : ∀ earlier index deed later, seen = earlier ++ .did index deed :: later →
    ∃ groups, .taken index groups ∈ earlier
  escalation : ∀ index groups, .taken index groups ∈ seen → ∃ cancellation,
    threads.cancellations[index]? = some cancellation ∧
    Escalation groups (deedsOf index seen) cancellation.isFinished

/-- When the clock goes forward, cancellations come to their end, and kill all groups that took the
request if there is no grace period. -/
structure CancelsInTime (system : Groups γ) (seen : List Happening) (threads : Threads γ) :
    Prop where
  hasty : ∀ index (cancellation : Cancellation), threads.cancellations[index]? = some cancellation →
    cancellation.grace = 0 → cancellation.isFinished →
    ∀ group, .killed group ∈ deedsOf index seen ↔ .asked group true ∈ deedsOf index seen
  /-- Cancelling at one go is a cancellation with which no other thread interferes. -/
  terminate : ∀ grace,
    let last := (threads.play system (.cancel grace ::
      List.replicate (stepsFor threads.calls.inFlight grace)
        (.proceed threads.cancellations.length))).1
    threads.calls.terminate system grace threads.system = (last.calls, last.system) ∧
      ∃ cancellation, last.cancellations[threads.cancellations.length]? = some cancellation ∧
        cancellation.isFinished

/-- A cancellation that nothing interferes with is what cancelling at one go comes to. -/
theorem terminate_eq_play (system : Groups γ) (threads : Threads γ) {time : γ → Nat}
    (htime : system.KeepsTime time) (grace : Nat) :
    let last := (threads.play system (.cancel grace ::
      List.replicate (stepsFor threads.calls.inFlight grace)
        (.proceed threads.cancellations.length))).1
    threads.calls.terminate system grace threads.system = (last.calls, last.system) ∧
      ∃ cancellation, last.cancellations[threads.cancellations.length]? = some cancellation ∧
        cancellation.isFinished := by
  have hlast := play_proceed system (threads.move system (.cancel grace)).1
    threads.cancellations.length (stepsFor threads.calls.inFlight grace)
    List.getElem?_concat_length
  rw [play]
  dsimp only
  rw [hlast]
  refine ⟨rfl, _, List.getElem?_set_self (by simp [move]), ?_⟩
  exact isFinished_goOn htime (due_begin threads.calls grace (time threads.system))

section Play

variable (system : Groups γ) (state : γ) (moves : List (Move γ))

theorem conduct_play :
    Conduct ((fresh state).play system moves).2 ((fresh state).play system moves).1 :=
  keeps_play Conduct system moves (fun _ _ _ _ _ hmakes hconduct => hconduct.step hmakes)
    (conduct_fresh state)

theorem isCovered_play :
    IsCovered ((fresh state).play system moves).2 ((fresh state).play system moves).1 :=
  keeps_play IsCovered system moves (fun _ _ _ _ _ hmakes hcovered => hcovered.step hmakes)
    (isCovered_fresh state)

theorem isHasty_play {time : γ → Nat} (htime : system.KeepsTime time)
    (hforward : ∀ move ∈ moves, GoesForward time move) :
    IsHasty time ((fresh state).play system moves).2 ((fresh state).play system moves).1 := by
  have hstart : Conduct [] (fresh state) ∧ IsHasty time [] (fresh state) :=
    ⟨conduct_fresh state, by simp [IsHasty, fresh]⟩
  have hplay := keeps_play (fun seen threads => Conduct seen threads ∧ IsHasty time seen threads)
    system moves (fun move hmem _ _ _ hmakes hseen =>
      ⟨hseen.1.step hmakes, hseen.2.step htime (hforward move hmem) hmakes hseen.1⟩) hstart
  exact hplay.2

end Play

/-- Whatever the threads do, each cancellation takes the calls that are registered when it begins,
asks each of them once, and in the end has killed those that outlasted it. -/
theorem play_cancels (system : Groups γ) (state : γ) (moves : List (Move γ)) :
    let played := (fresh state).play system moves
    Cancels played.2 played.1 ∧
      ∀ time, system.KeepsTime time → (∀ move ∈ moves, GoesForward time move) →
        CancelsInTime system played.2 played.1 := by
  have htakes := takesRegistered_play system state moves
  have hconduct := conduct_play system state moves
  have hcancels : Cancels ((fresh state).play system moves).2
      ((fresh state).play system moves).1 := {
    taken := htakes
    takenOnce := fun earlier index groups between other others later heq group hgroup => by
      rw [heq] at htakes
      exact htakes.exists_tracked hgroup
    askedOnce := fun group => by
      have hcovered := isCovered_play system state moves group
      omega
    begun := hconduct.begun
    escalation := fun index groups hmem => by
      obtain ⟨cancellation, hindex, hcourse⟩ := hconduct.course index groups hmem
      obtain ⟨earlier, later, heq⟩ := List.append_of_mem hmem
      have hnodup := (htakes earlier index groups later heq).1
      exact ⟨cancellation, hindex, hcourse.escalation hnodup⟩ }
  refine ⟨hcancels, fun time htime hforward => {
    hasty := fun index cancellation hindex hgrace hfinished group => ?_
    terminate := terminate_eq_play system _ htime }⟩
  have hhasty := isHasty_play system state moves htime hforward
  have hlooks := (hhasty index cancellation hindex hgrace).2
  obtain ⟨groups, hgroups⟩ := hconduct.taken index cancellation hindex
  obtain ⟨old, hold, hescalation⟩ := hcancels.escalation index groups hgroups
  obtain rfl : cancellation = old := Option.some.inj (hindex.symm.trans hold)
  -- No look was made, so that there is none that did not find the group.
  have hnone (deed : Deed) (hlook : deed.IsLook) :
      (deedsOf index ((fresh state).play system moves).2).count deed = 0 :=
    List.count_eq_zero.mpr fun hmem => hlooks deed hmem hlook
  rw [hescalation.killed hfinished, Outlasts, hnone (.probed group true) trivial,
    hnone .rested trivial, and_iff_left rfl]

open Rehearsal in
theorem keepsTime_processes : Processes.groups.KeepsTime (·.time) where
  terminate group processes := by
    rw [Processes.groups]
    dsimp only
    split <;> exact Nat.le_refl _
  probe group processes := Nat.le_refl _
  kill group processes := by
    rw [Processes.groups]
    dsimp only
    split <;> exact Nat.le_refl _
  le_now processes := Nat.le_refl _
  now_le processes := Nat.le_refl _
  rest duration processes := Nat.le_refl _

open Rehearsal in
/-- A call that ignores the request is killed by the cancellation that took it, though another one
begins at once and the call is registered again. -/
theorem play_cancels_stubborn :
    let played := (fresh { table := [(1, .started .stubborn)] }).play Processes.groups
      [.track 1, .cancel 0, .cancel 0, .track 1, .proceed 1, .proceed 0, .proceed 0, .proceed 0,
        .proceed 0]
    .killed 1 ∈ deedsOf 0 played.2 ∧ deedsOf 1 played.2 = [] := by
  have hcancels := play_cancels Processes.groups { table := [(1, .started .stubborn)] }
    [.track 1, .cancel 0, .cancel 0, .track 1, .proceed 1, .proceed 0, .proceed 0, .proceed 0,
      .proceed 0]
  have htime := hcancels.2 (·.time) keepsTime_processes (by simp [GoesForward])
  refine ⟨(htime.hasty 0 ⟨.killing [], 0⟩ rfl rfl rfl 1).mpr (by decide), ?_⟩
  obtain ⟨cancellation, -, hescalation⟩ := hcancels.1.escalation 1 [] (by decide)
  exact hescalation.idle rfl

end Threads

end Decommission
