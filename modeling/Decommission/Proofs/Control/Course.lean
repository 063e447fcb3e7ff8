import Decommission.Proofs.Control.Threads
import Mathlib.Data.List.Count
import Mathlib.Data.List.Nodup

/-!
# The course of a cancellation

A cancellation asks its groups to end one after the other.  It then looks for those that took the
request until they are gone or the grace period is over, and kills those that every look has found.
-/

namespace Decommission

variable {γ : Type}

/-- A look at the groups that are left, or part of one. -/
def Deed.IsLook : Deed → Prop
  | .rested | .probed _ _ => True
  | .asked _ _ | .killed _ => False

namespace Cancellation

/-! ## Answers -/

/-- The groups for which the answer was yes. -/
def positive (answers : List (Group × Bool)) : List Group :=
  (answers.filter (·.2)).map (·.1)

def asks (answers : List (Group × Bool)) : List Deed :=
  answers.map fun answer => .asked answer.1 answer.2

/-- A look at the groups after a rest. -/
def look (answers : List (Group × Bool)) : List Deed :=
  .rested :: answers.map fun answer => .probed answer.1 answer.2

def kills (groups : List Group) : List Deed :=
  groups.map .killed

section Answers

variable {answers : List (Group × Bool)} {group : Group} {answer : Bool}

@[simp]
theorem mem_positive : group ∈ positive answers ↔ (group, true) ∈ answers := by
  simp [positive]

theorem positive_concat : positive (answers ++ [(group, answer)]) =
    if answer then positive answers ++ [group] else positive answers := by
  cases answer <;> simp [positive]

theorem positive_sublist : (positive answers).Sublist (answers.map (·.1)) :=
  List.filter_sublist.map _

theorem asks_concat :
    asks (answers ++ [(group, answer)]) = asks answers ++ [.asked group answer] := by
  simp [asks]

theorem look_concat :
    look (answers ++ [(group, answer)]) = look answers ++ [.probed group answer] := by
  simp [look]

theorem kills_concat {groups : List Group} :
    kills (groups ++ [group]) = kills groups ++ [.killed group] := by
  simp [kills]

theorem isLook_look : ∀ deed ∈ look answers, deed.IsLook := by
  rintro deed hmem
  rw [look, List.mem_cons, List.mem_map] at hmem
  obtain rfl | ⟨answer, -, rfl⟩ := hmem <;> trivial

@[simp]
theorem count_rested_look : (look answers).count .rested = 1 := by
  simp [look, List.count_eq_zero]

theorem count_look (hnodup : (answers.map (·.1)).Nodup) :
    (look answers).count (.probed group true) = if group ∈ positive answers then 1 else 0 := by
  have hinjective : Function.Injective fun answer : Group × Bool =>
      Deed.probed answer.1 answer.2 := by
    rintro ⟨first, isThere⟩ ⟨second, isThere'⟩ heq
    simpa using heq
  rw [look, List.count_cons_of_ne (by simp),
    List.count_map_of_injective answers _ hinjective (group, true), hnodup.of_map.count]
  simp

end Answers

/-! ## Looks -/

/-- Looks at those groups that took the request, and the groups that each of them has found. -/
inductive Polls (accepted : List Group) : List Deed → List Group → Prop where
  | none : Polls accepted [] accepted
  | poll {looks alive answers} (hpolls : Polls accepted looks alive)
      (hanswers : answers.map (·.1) = alive) :
      Polls accepted (looks ++ look answers) (positive answers)

namespace Polls

variable {accepted alive : List Group} {looks : List Deed}

theorem isLook (hpolls : Polls accepted looks alive) : ∀ deed ∈ looks, deed.IsLook := by
  induction hpolls with
  | none => simp
  | poll hpolls hanswers ih =>
      rintro deed hmem
      obtain hmem | hmem := List.mem_append.mp hmem
      · exact ih deed hmem
      · exact isLook_look deed hmem

theorem sublist (hpolls : Polls accepted looks alive) : alive.Sublist accepted := by
  induction hpolls with
  | none => exact .refl _
  | poll hpolls hanswers ih =>
      rw [← hanswers] at ih
      exact positive_sublist.trans ih

/-- A group is found at most once in every look, and those that are left were found each time. -/
theorem count_le (hpolls : Polls accepted looks alive) (hnodup : accepted.Nodup) {group : Group}
    (hgroup : group ∈ accepted) :
    looks.count (.probed group true) ≤ looks.count .rested ∧
      (looks.count (.probed group true) = looks.count .rested ↔ group ∈ alive) := by
  induction hpolls with
  | none => simp [hgroup]
  | @poll looks alive answers hpolls hanswers ih =>
      have halive : (answers.map (·.1)).Nodup := by
        rw [hanswers]
        exact hnodup.sublist hpolls.sublist
      have hpositive : group ∈ positive answers → group ∈ alive := by
        rw [← hanswers]
        exact fun hmem => positive_sublist.subset hmem
      rw [List.count_append, List.count_append, count_look halive, count_rested_look]
      split
      · rename_i hmem
        simp only [hmem, iff_true, hpositive hmem] at ih ⊢
        omega
      · rename_i hmem
        simp only [hmem, iff_false]
        omega

end Polls

/-! ## The course -/

/-- What a cancellation of these groups has done when it has come to a phase. -/
inductive Course (groups : List Group) : Phase → List Deed → Prop where
  | asking {answers pending} (hgroups : answers.map (·.1) ++ pending = groups) :
      Course groups (.asking pending (positive answers)) (asks answers)
  | waiting {answers deadline looks alive} (hgroups : answers.map (·.1) = groups)
      (hpositive : positive answers ≠ []) (hpolls : Polls (positive answers) looks alive) :
      Course groups (.waiting deadline alive) (asks answers ++ looks)
  | probing {answers deadline looks found pending} (hgroups : answers.map (·.1) = groups)
      (hpositive : positive answers ≠ [])
      (hpolls : Polls (positive answers) looks (found.map (·.1) ++ pending)) :
      Course groups (.probing deadline pending (positive found))
        (asks answers ++ (looks ++ look found))
  | killing {answers looks killed pending} (hgroups : answers.map (·.1) = groups)
      (hpositive : positive answers ≠ [])
      (hpolls : Polls (positive answers) looks (killed ++ pending)) :
      Course groups (.killing pending) (asks answers ++ looks ++ kills killed)

theorem Course.step {system : Groups γ} {state next : γ} {grace : Nat} {groups : List Group}
    {phase last : Phase} {past deeds : List Deed} (hcourse : Course groups phase past)
    (hsteps : phase.Steps system state grace last next deeds) :
    Course groups last (past ++ deeds) := by
  cases hsteps with
  | @asked group pending accepted accepts =>
      cases hcourse with
      | @asking answers _ hgroups =>
          rw [← positive_concat, ← asks_concat]
          exact .asking (by simpa using hgroups)
  | settled haccepted =>
      cases hcourse with
      | asking hgroups =>
          exact .waiting (by simpa using hgroups) haccepted .none
  | rested =>
      cases hcourse with
      | waiting hgroups hpositive hpolls =>
          rw [List.append_assoc]
          exact @Course.probing _ _ _ _ [] _ hgroups hpositive hpolls
  | expired =>
      cases hcourse with
      | waiting hgroups hpositive hpolls =>
          exact @Course.killing _ _ _ [] _ hgroups hpositive hpolls
  | @probed deadline group pending alive isThere =>
      cases hcourse with
      | probing hgroups hpositive hpolls =>
          rw [← positive_concat, List.append_assoc, List.append_assoc, ← look_concat]
          exact .probing hgroups hpositive (by simpa using hpolls)
  | polled =>
      cases hcourse with
      | probing hgroups hpositive hpolls =>
          rw [List.append_nil] at hpolls ⊢
          exact .waiting hgroups hpositive (.poll hpolls rfl)
  | killed =>
      cases hcourse with
      | killing hgroups hpositive hpolls =>
          rw [List.append_assoc, ← kills_concat]
          exact .killing hgroups hpositive (by simpa using hpolls)

/-! ## Escalation -/

/-- How often the group was asked to end. -/
def requests (deeds : List Deed) (group : Group) : Nat :=
  deeds.count (.asked group true) + deeds.count (.asked group false)

/-- The group took the request to end, and every look has found it. -/
def Outlasts (deeds : List Deed) (group : Group) : Prop :=
  .asked group true ∈ deeds ∧ deeds.count (.probed group true) = deeds.count .rested

/-- What a cancellation of these groups does, be it at its end or still under way. -/
structure Escalation (groups : List Group) (deeds : List Deed) (isFinished : Bool) : Prop where
  /-- The groups are asked in order before anything else is done, and killing comes last. -/
  stages : ∃ answers looks killed, deeds = asks answers ++ looks ++ kills killed ∧
    answers.map (·.1) <+: groups ∧
    (looks ++ kills killed ≠ [] → answers.map (·.1) = groups) ∧ ∀ deed ∈ looks, deed.IsLook
  requests_le : ∀ group, requests deeds group ≤ if group ∈ groups then 1 else 0
  count_killed_le : ∀ group, deeds.count (.killed group) ≤ 1
  outlasts : ∀ group, .killed group ∈ deeds → Outlasts deeds group
  requests_eq : isFinished → ∀ group, requests deeds group = if group ∈ groups then 1 else 0
  killed : isFinished → ∀ group, .killed group ∈ deeds ↔ Outlasts deeds group
  idle : groups = [] → deeds = []

section Stages

variable {groups killed : List Group} {answers : List (Group × Bool)} {looks : List Deed}
variable {group : Group}

theorem requests_stages (hlooks : ∀ deed ∈ looks, deed.IsLook) :
    requests (asks answers ++ looks ++ kills killed) group = (answers.map (·.1)).count group := by
  have hnone (answer : Bool) : looks.count (.asked group answer) = 0 :=
    List.count_eq_zero.mpr fun hmem => hlooks _ hmem
  have hkills (answer : Bool) : (kills killed).count (.asked group answer) = 0 := by
    simp [kills, List.count_eq_zero]
  simp only [requests, List.count_append, hnone, hkills, Nat.add_zero]
  induction answers with
  | nil => rfl
  | cons answer answers ih =>
      obtain ⟨other, answer⟩ := answer
      simp only [asks, List.map_cons, List.count_cons] at ih ⊢
      cases answer <;> simp <;> omega

theorem outlasts_stages (hlooks : ∀ deed ∈ looks, deed.IsLook) :
    Outlasts (asks answers ++ looks ++ kills killed) group ↔
      group ∈ positive answers ∧ looks.count (.probed group true) = looks.count .rested := by
  have hasked : .asked group true ∈ asks answers ++ looks ++ kills killed ↔
      group ∈ positive answers := by
    have hnone : .asked group true ∉ looks := fun hmem => hlooks _ hmem
    simp [asks, kills, hnone]
  have hcount (deed : Deed) (hlook : deed.IsLook) :
      (asks answers ++ looks ++ kills killed).count deed = looks.count deed := by
    have hasks : deed ∉ asks answers := by
      rintro hmem
      obtain ⟨answer, -, rfl⟩ := List.mem_map.mp hmem
      exact hlook
    have hkills : deed ∉ kills killed := by
      rintro hmem
      obtain ⟨other, -, rfl⟩ := List.mem_map.mp hmem
      exact hlook
    rw [List.count_append, List.count_append, List.count_eq_zero.mpr hasks,
      List.count_eq_zero.mpr hkills, Nat.zero_add, Nat.add_zero]
  rw [Outlasts, hasked, hcount (.probed group true) trivial, hcount .rested trivial]

theorem count_killed_stages (hlooks : ∀ deed ∈ looks, deed.IsLook) :
    (asks answers ++ looks ++ kills killed).count (.killed group) = killed.count group := by
  have hasks : (asks answers).count (.killed group) = 0 := by
    simp [asks, List.count_eq_zero]
  have hnone : looks.count (.killed group) = 0 :=
    List.count_eq_zero.mpr fun hmem => hlooks _ hmem
  have hinjective : Function.Injective Deed.killed := by
    rintro first second heq
    simpa using heq
  rw [List.count_append, List.count_append, hasks, hnone, kills,
    List.count_map_of_injective killed _ hinjective, Nat.zero_add]

/-- The stages of a cancellation give all that is to be known of it. -/
theorem escalation_stages {isFinished : Bool} (hnodup : groups.Nodup)
    (hfirst : answers.map (·.1) <+: groups)
    (hbegun : looks = [] ∧ killed = [] ∨ answers.map (·.1) = groups ∧ positive answers ≠ [])
    (hlooks : ∀ deed ∈ looks, deed.IsLook) (hkilled : killed.Nodup)
    (hlast : ∀ group ∈ killed, group ∈ positive answers ∧
      looks.count (.probed group true) = looks.count .rested)
    (hfinished : isFinished → answers.map (·.1) = groups ∧ ∀ group ∈ positive answers,
      looks.count (.probed group true) = looks.count .rested → group ∈ killed) :
    Escalation groups (asks answers ++ looks ++ kills killed) isFinished where
  stages := by
    refine ⟨answers, looks, killed, rfl, hfirst, fun hmore => ?_, hlooks⟩
    obtain ⟨rfl, rfl⟩ | ⟨hall, -⟩ := hbegun
    · exact absurd rfl hmore
    · exact hall
  requests_le group := by
    rw [requests_stages hlooks]
    split
    · exact List.nodup_iff_count_le_one.mp (hnodup.sublist hfirst.sublist) group
    · rename_i hgroup
      rw [Nat.le_zero, List.count_eq_zero]
      exact fun hmem => hgroup (hfirst.subset hmem)
  count_killed_le group := by
    rw [count_killed_stages hlooks]
    exact List.nodup_iff_count_le_one.mp hkilled group
  outlasts group hmem := by
    rw [← List.count_pos_iff, count_killed_stages hlooks, List.count_pos_iff] at hmem
    exact (outlasts_stages hlooks).mpr (hlast group hmem)
  requests_eq hfinish group := by
    rw [requests_stages hlooks, (hfinished hfinish).1, hnodup.count]
  killed hfinish group := by
    rw [← List.count_pos_iff, count_killed_stages hlooks, List.count_pos_iff,
      outlasts_stages hlooks]
    exact ⟨hlast group, fun ⟨hpositive, hcount⟩ => (hfinished hfinish).2 group hpositive hcount⟩
  idle hnone := by
    subst hnone
    obtain rfl : answers = [] := by simpa using hfirst
    obtain ⟨rfl, rfl⟩ | ⟨-, hpositive⟩ := hbegun
    · rfl
    · exact absurd rfl hpositive

end Stages

theorem Course.escalation {groups : List Group} {phase : Phase} {deeds : List Deed} {grace : Nat}
    (hcourse : Course groups phase deeds) (hnodup : groups.Nodup) :
    Escalation groups deeds (isFinished ⟨phase, grace⟩) := by
  have haccepted {answers : List (Group × Bool)} (hgroups : answers.map (·.1) = groups) :
      (positive answers).Nodup := by
    subst hgroups
    exact hnodup.sublist positive_sublist
  cases hcourse with
  | @asking answers pending hgroups =>
      have hstages : Escalation groups (asks answers ++ [] ++ kills [])
          (isFinished ⟨.asking pending (positive answers), grace⟩) := by
        refine escalation_stages hnodup ⟨pending, hgroups⟩ (.inl ⟨rfl, rfl⟩) (by simp) .nil
          (by simp) fun hfinished => ?_
        obtain ⟨rfl, hnone⟩ : pending = [] ∧ positive answers = [] := by
          cases pending <;> cases hpositive : positive answers <;> simp_all [isFinished]
        exact ⟨by simpa using hgroups, by simp [hnone]⟩
      simpa [kills] using hstages
  | @waiting answers deadline looks alive hgroups hpositive hpolls =>
      have hstages : Escalation groups (asks answers ++ looks ++ kills [])
          (isFinished ⟨.waiting deadline alive, grace⟩) := by
        refine escalation_stages hnodup (hgroups ▸ List.prefix_rfl) (.inr ⟨hgroups, hpositive⟩)
          hpolls.isLook .nil (by simp) fun hfinished => ⟨hgroups, fun group hmem hcount => ?_⟩
        have halive := ((hpolls.count_le (haccepted hgroups) hmem).2).mp hcount
        cases alive with
        | nil => exact halive
        | cons => cases hfinished
      simpa [kills] using hstages
  | @probing answers deadline looks found pending hgroups hpositive hpolls =>
      have hstages : Escalation groups (asks answers ++ (looks ++ look found) ++ kills [])
          (isFinished ⟨.probing deadline pending (positive found), grace⟩) := by
        refine escalation_stages hnodup (hgroups ▸ List.prefix_rfl) (.inr ⟨hgroups, hpositive⟩)
          ?_ .nil (by simp) (by simp [isFinished])
        rintro deed hmem
        obtain hmem | hmem := List.mem_append.mp hmem
        · exact hpolls.isLook deed hmem
        · exact isLook_look deed hmem
      simpa [kills] using hstages
  | @killing answers looks killed pending hgroups hpositive hpolls =>
      have hmem {group : Group} (hleft : group ∈ killed ++ pending) : group ∈ positive answers :=
        hpolls.sublist.subset hleft
      have hcount {group : Group} (hgroup : group ∈ positive answers) :=
        (hpolls.count_le (haccepted hgroups) hgroup).2
      refine escalation_stages hnodup (hgroups ▸ List.prefix_rfl) (.inr ⟨hgroups, hpositive⟩)
        hpolls.isLook ?_ (fun group hkilled => ?_)
        fun hfinished => ⟨hgroups, fun group hgroup hall => ?_⟩
      · have hlasting := (haccepted hgroups).sublist hpolls.sublist
        exact hlasting.sublist (List.sublist_append_left killed pending)
      · have hleft : group ∈ killed ++ pending := List.mem_append_left _ hkilled
        exact ⟨hmem hleft, (hcount (hmem hleft)).mpr hleft⟩
      · cases pending with
        | nil => simpa using (hcount hgroup).mp hall
        | cons => cases hfinished

end Cancellation

/-! ## Time -/

/-- The clock never goes back, and a rest takes its time. -/
structure Groups.KeepsTime (system : Groups γ) (time : γ → Nat) : Prop where
  terminate : ∀ group state, time state ≤ time (system.terminate group state).2
  probe : ∀ group state, time state ≤ time (system.probe group state).2
  kill : ∀ group state, time state ≤ time (system.kill group state)
  le_now : ∀ state, time state ≤ (system.now state).1
  now_le : ∀ state, (system.now state).1 ≤ time (system.now state).2
  rest : ∀ duration state, time state + duration ≤ time (system.rest duration state)

namespace Cancellation

section Time

variable {system : Groups γ} {time : γ → Nat} {state next : γ} {grace : Nat}
variable {phase last : Phase} {deeds : List Deed}

/-- The number of looks that fit in. -/
def looksLeft (left : Nat) : Nat := (left + (pollInterval - 1)) / pollInterval

/-- The number of steps for looking at some groups as long as the grace period lasts, and for
killing them. -/
def stepsLeft (count left : Nat) : Nat := (count + 2) * looksLeft left + count + 1

/-- The number of steps that a cancellation still takes at most. -/
def due (now : Nat) (cancellation : Cancellation) : Nat :=
  match cancellation.phase with
  | .asking pending accepted =>
      pending.length + 1 + stepsLeft (pending.length + accepted.length) cancellation.grace
  | .waiting deadline alive => stepsLeft alive.length (deadline - now)
  | .probing deadline pending alive =>
      pending.length + 1 + stepsLeft (pending.length + alive.length) (deadline - now)
  | .killing pending => pending.length

theorem stepsLeft_mono {count more left longer : Nat} (hcount : count ≤ more)
    (hleft : left ≤ longer) : stepsLeft count left ≤ stepsLeft more longer := by
  have hlooks : looksLeft left ≤ looksLeft longer :=
    Nat.div_le_div_right (Nat.add_le_add_right hleft _)
  have hproduct := Nat.mul_le_mul (Nat.add_le_add_right hcount 2) hlooks
  rw [stepsLeft, stepsLeft]
  omega

/-- A look that fits in takes a rest, the groups themselves and one more step. -/
theorem stepsLeft_look {count left shorter : Nat} (hleft : 0 < left)
    (hshorter : shorter ≤ left - pollInterval) :
    count + 2 + stepsLeft count shorter ≤ stepsLeft count left := by
  have hlooks : looksLeft shorter + 1 ≤ looksLeft left := by
    simp only [looksLeft, pollInterval] at hshorter ⊢
    omega
  have hproduct := Nat.mul_le_mul_left (count + 2) hlooks
  rw [Nat.mul_add_one] at hproduct
  rw [stepsLeft, stepsLeft]
  omega

theorem time_le (htime : system.KeepsTime time)
    (hsteps : phase.Steps system state grace last next deeds) : time state ≤ time next := by
  have hnow := Nat.le_trans (htime.le_now state) (htime.now_le state)
  cases hsteps with
  | @asked group _ _ _ _ hterminate => simpa [hterminate] using htime.terminate group state
  | settled haccepted hread | expired halive hread => simpa [hread] using hnow
  | rested halive hread =>
      rw [hread] at hnow
      exact Nat.le_trans hnow (Nat.le_trans (Nat.le_add_right _ _) (htime.rest _ _))
  | @probed _ group _ _ _ _ hprobe => simpa [hprobe] using htime.probe group state
  | polled => exact Nat.le_refl _
  | killed => exact htime.kill _ state

theorem due_lt (htime : system.KeepsTime time)
    (hsteps : phase.Steps system state grace last next deeds) :
    due (time next) ⟨last, grace⟩ < due (time state) ⟨phase, grace⟩ := by
  have hlater := time_le htime hsteps
  cases hsteps with
  | @asked group pending accepted accepts =>
      have hleft : stepsLeft (pending.length +
          (if accepts then accepted ++ [group] else accepted).length) grace ≤
          stepsLeft ((group :: pending).length + accepted.length) grace := by
        apply stepsLeft_mono _ (Nat.le_refl _)
        cases accepts <;> simp; omega
      simp only [due, List.length_cons] at hleft ⊢
      omega
  | @settled accepted read _ haccepted hnow =>
      have hread : read ≤ time next := by
        simpa [hnow] using htime.now_le state
      have hleft : stepsLeft accepted.length (read + grace - time next) ≤
          stepsLeft accepted.length grace := stepsLeft_mono (Nat.le_refl _) (by omega)
      simp only [due, List.length_nil, Nat.zero_add] at hleft ⊢
      omega
  | @rested deadline alive read between halive hnow hearly =>
      have hstart : time state ≤ read := by
        simpa [hnow] using htime.le_now state
      have hread : read ≤ time between := by
        simpa [hnow] using htime.now_le state
      have hrest := htime.rest pollInterval between
      have hlook : alive.length + 2 +
          stepsLeft alive.length (deadline - time (system.rest pollInterval between)) ≤
          stepsLeft alive.length (deadline - time state) :=
        stepsLeft_look (by omega) (by omega)
      simp only [due, List.length_nil, Nat.add_zero]
      omega
  | @expired deadline alive =>
      simp only [due, stepsLeft]
      omega
  | @probed deadline group pending alive isThere =>
      have hleft : stepsLeft (pending.length +
          (if isThere then alive ++ [group] else alive).length) (deadline - time next) ≤
          stepsLeft ((group :: pending).length + alive.length) (deadline - time state) := by
        refine stepsLeft_mono ?_ (by omega)
        cases isThere <;> simp; omega
      simp only [due, List.length_cons] at hleft ⊢
      omega
  | polled =>
      simp only [due, List.length_nil, Nat.zero_add]
      omega
  | killed =>
      simp [due]

/-- A cancellation comes to its end within the steps that are left. -/
theorem isFinished_goOn (htime : system.KeepsTime time) {steps : Nat}
    {cancellation : Cancellation} (hdue : cancellation.due (time state) ≤ steps) :
    (cancellation.goOn system steps state).1.isFinished := by
  induction steps generalizing cancellation state with
  | zero =>
      obtain ⟨phase, grace⟩ := cancellation
      cases phase with
      | killing pending =>
          obtain rfl : pending = [] := by simpa [due] using hdue
          rfl
      | asking | waiting | probing => simp [due, stepsLeft] at hdue
  | succ steps ih =>
      cases hfinished : cancellation.isFinished with
      | true =>
          rw [goOn_of_isFinished hfinished]
          exact hfinished
      | false =>
          obtain ⟨phase, next, deeds, hsteps, hstep, -⟩ :=
            cancellation.exists_steps system state hfinished []
          have hlt := due_lt htime hsteps
          rw [goOn, if_neg (by simp [hfinished]), hstep]
          refine ih ?_
          exact Nat.le_of_lt_succ (Nat.lt_of_lt_of_le hlt hdue)

theorem due_begin (calls : Calls) (grace now : Nat) :
    (begin calls grace).1.due now ≤ stepsFor calls.inFlight grace := by
  have hlooks : looksLeft grace ≤ grace / pollInterval + 1 := by
    simp only [looksLeft, pollInterval]
    omega
  have hproduct := Nat.mul_le_mul_left (calls.inFlight + 2) hlooks
  rw [Nat.mul_add_one] at hproduct
  simp only [due, begin, stepsFor, stepsLeft, Calls.inFlight, List.length_nil, Nat.add_zero,
    Nat.mul_add] at hproduct ⊢
  omega

/-- When there is no grace period, a cancellation never looks for the groups. -/
def IsHasty (now : Nat) : Phase → Prop
  | .asking _ _ | .killing _ => True
  | .waiting deadline _ => deadline ≤ now
  | .probing _ _ _ => False

theorem IsHasty.mono {now later : Nat} (hlater : now ≤ later) (hhasty : IsHasty now phase) :
    IsHasty later phase := by
  cases phase with
  | waiting => exact Nat.le_trans hhasty hlater
  | asking | probing | killing => exact hhasty

theorem IsHasty.step (htime : system.KeepsTime time) (hhasty : IsHasty (time state) phase)
    (hsteps : phase.Steps system state 0 last next deeds) :
    IsHasty (time next) last ∧ ∀ deed ∈ deeds, ¬deed.IsLook := by
  cases hsteps with
  | asked => exact ⟨trivial, by simp [Deed.IsLook]⟩
  | settled haccepted hnow =>
      have hread := htime.now_le state
      rw [hnow] at hread
      exact ⟨hread, by simp⟩
  | rested halive hnow hearly =>
      have hread := htime.le_now state
      rw [hnow] at hread
      exact absurd (Nat.le_trans hhasty hread) (Nat.not_le_of_lt hearly)
  | expired => exact ⟨trivial, by simp⟩
  | probed => exact hhasty.elim
  | polled => exact hhasty.elim
  | killed => exact ⟨trivial, by simp [Deed.IsLook]⟩

end Time

end Cancellation

end Decommission
