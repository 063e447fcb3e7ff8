import Decommission.Stage
import Mathlib.Data.List.Infix
import Mathlib.Data.List.Nodup

/-!
# The stages of a run

Whatever is asked of the progress of a run, in whatever order, it goes through the stages one after
the other and through none twice, until it is done or aborted.  Only an abort leads to the last
stage, and the stage in which that happened is kept.  What is refused changes nothing.
-/

namespace Decommission

namespace Stage

/-- The stages of a run that is not aborted. -/
def inOrder : List Stage := [.start, .stoppingServices, .cleaningArtifacts, .done]

variable {stage following : Stage}

/-- The stages that are left begin with the one that is reached. -/
theorem inOrder_drop (hstage : stage ≠ .aborted) :
    inOrder.drop stage.ordinal =
      stage :: stage.next?.elim [] fun following => inOrder.drop following.ordinal := by
  cases stage with
  | aborted => exact absurd rfl hstage
  | start | stoppingServices | cleaningArtifacts | done => rfl

theorem isTerminal_of_next? (hfollows : stage.next? = some following) :
    stage.isTerminal = false := by
  rw [← Bool.not_eq_true, ← next?_eq_none_iff, hfollows]
  simp

/-- No stage is followed by the last one. -/
theorem ne_aborted_of_next? (hfollows : stage.next? = some following) : following ≠ .aborted := by
  rintro rfl
  cases stage <;> cases hfollows

theorem ne_done_of_next? (hfollows : stage.next? = some following) : stage ≠ .done := by
  rintro rfl
  cases hfollows

theorem ne_of_next? (hfollows : stage.next? = some following) : stage ≠ following := by
  rintro rfl
  cases stage <;> cases hfollows

theorem nodup_inOrder : inOrder.Nodup := by decide

theorem aborted_not_mem_inOrder : Stage.aborted ∉ inOrder := by decide

/-- On a way through the stages cleaning up comes right behind stopping services. -/
theorem adjacent_of_way {way : List Stage} (hway : way <+: inOrder)
    (hmem : .cleaningArtifacts ∈ way) : [.stoppingServices, .cleaningArtifacts] <:+: way := by
  have hall : ∀ front ∈ inOrder.inits, .cleaningArtifacts ∈ front →
      [.stoppingServices, .cleaningArtifacts] <:+: front := by decide
  exact hall way ((List.mem_inits _ _).mpr hway) hmem

end Stage

namespace Progress

/-- What can be asked of the progress of a run. -/
inductive Operation where
  | advance
  | transitionTo (target : Stage)
  | abort
  deriving DecidableEq, Repr

/-- The progress that an operation leads to, or why it is refused. -/
def perform (progress : Progress) : Operation → Except Refusal Progress
  | .advance => progress.advance
  | .transitionTo target => progress.transitionTo target
  | .abort => .ok progress.abort

/-- The progress behind an operation, which may be refused. -/
def step (progress : Progress) (operation : Operation) : Progress :=
  match progress.perform operation with
  | .ok next => next
  | .error _ => progress

/-- The progress behind a history of operations. -/
def after (progress : Progress) (history : List Operation) : Progress :=
  history.foldl step progress

/-- The stages that a history visits: the one it starts in, and each one that it enters from
another. -/
def visited (progress : Progress) : List Operation → List Stage
  | [] => [progress.stage]
  | operation :: rest =>
      let next := progress.step operation
      if next.stage = progress.stage then next.visited rest
      else progress.stage :: next.visited rest

variable {progress next : Progress} {stage target : Stage} {operation : Operation}
variable {history : List Operation}

/-! ## One operation -/

/-- A stage can be gone to if and only if it is the one that an advance leads to. -/
theorem transitionTo_eq_ok_iff_advance : progress.transitionTo target = .ok next ↔
    progress.advance = .ok next ∧ next.stage = target := by
  rw [transitionTo_eq_ok_iff, advance_eq_ok_iff]
  constructor
  · rintro ⟨hfollows, rfl⟩
    exact ⟨⟨target, hfollows, rfl⟩, rfl⟩
  · rintro ⟨⟨stage, hfollows, rfl⟩, rfl⟩
    exact ⟨hfollows, rfl⟩

/-- An abort changes a run that has not ended, and no other. -/
theorem abort_ne_self_iff : progress.abort ≠ progress ↔ progress.stage.isTerminal = false := by
  obtain ⟨stage, abortedAt⟩ := progress
  cases stage <;> simp [abort, Stage.isTerminal]

theorem abort_of_not_isTerminal (hgoes : progress.stage.isTerminal = false) :
    progress.abort = ⟨.aborted, some progress.stage⟩ := by
  rw [abort, if_neg (by simp [hgoes])]

theorem step_of_error {refusal : Refusal} (hrefused : progress.perform operation = .error refusal) :
    progress.step operation = progress := by
  rw [step, hrefused]

theorem step_of_ok (hnext : progress.perform operation = .ok next) :
    progress.step operation = next := by
  rw [step, hnext]

/-- What an operation does: nothing, a move to the next stage, or an abort. -/
inductive Steps (progress : Progress) (operation : Operation) : Progress → Prop where
  | stays : Steps progress operation progress
  | moves {following} (hoperation : operation ≠ .abort)
      (hfollows : progress.stage.next? = some following) :
      Steps progress operation { progress with stage := following }
  | aborts (hoperation : operation = .abort) (hgoes : progress.stage.isTerminal = false) :
      Steps progress operation ⟨.aborted, some progress.stage⟩

theorem steps_of_advance (hoperation : operation ≠ .abort) (hnext : progress.advance = .ok next) :
    Steps progress operation next := by
  obtain ⟨stage, hfollows, rfl⟩ := advance_eq_ok_iff.mp hnext
  exact .moves hoperation hfollows

theorem steps_step (progress : Progress) (operation : Operation) :
    Steps progress operation (progress.step operation) := by
  cases hperform : progress.perform operation with
  | error refusal =>
      rw [step_of_error hperform]
      exact .stays
  | ok next =>
      rw [step_of_ok hperform]
      cases operation with
      | advance => exact steps_of_advance nofun hperform
      | transitionTo target =>
          exact steps_of_advance nofun (transitionTo_eq_ok_iff_advance.mp hperform).1
      | abort =>
          cases hperform
          cases hended : progress.stage.isTerminal with
          | true =>
              rw [abort_of_isTerminal hended]
              exact .stays
          | false =>
              rw [abort_of_not_isTerminal hended]
              exact .aborts rfl hended

/-- What has ended stays as it is. -/
theorem step_of_isTerminal (hended : progress.stage.isTerminal = true) (operation : Operation) :
    progress.step operation = progress := by
  have hsteps := steps_step progress operation
  generalize progress.step operation = next at hsteps ⊢
  cases hsteps with
  | stays => rfl
  | moves _ hfollows =>
      rw [Stage.isTerminal_of_next? hfollows] at hended
      cases hended
  | aborts _ hgoes =>
      rw [hgoes] at hended
      cases hended

/-- Only an abort leads to the last stage. -/
theorem aborted_of_step (hlast : (progress.step operation).stage = .aborted) :
    progress.stage = .aborted ∨ operation = .abort := by
  have hsteps := steps_step progress operation
  generalize progress.step operation = next at hsteps hlast
  cases hsteps with
  | stays => exact Or.inl hlast
  | moves _ hfollows => exact absurd hlast (Stage.ne_aborted_of_next? hfollows)
  | aborts hoperation => exact Or.inr hoperation

/-! ## Histories -/

theorem after_concat : progress.after (history ++ [operation]) =
    (progress.after history).step operation := by
  rw [after, List.foldl_concat]
  rfl

theorem after_append (more : List Operation) : progress.after (history ++ more) =
    (progress.after history).after more := List.foldl_append ..

theorem after_of_isTerminal (hended : progress.stage.isTerminal = true)
    (history : List Operation) : progress.after history = progress := by
  induction history with
  | nil => rfl
  | cons operation rest ih =>
      rw [after, List.foldl_cons, step_of_isTerminal hended]
      exact ih

/-- There is a stage of the abort in the last stage and in no other. -/
theorem isSome_abortedAt_step (hkept : progress.abortedAt.isSome = true ↔ progress.stage = .aborted) :
    (progress.step operation).abortedAt.isSome = true ↔
      (progress.step operation).stage = .aborted := by
  have hsteps := steps_step progress operation
  generalize progress.step operation = next at hsteps ⊢
  cases hsteps with
  | stays => exact hkept
  | moves _ hfollows =>
      have hbefore : progress.stage ≠ .aborted := by
        intro haborted
        rw [haborted] at hfollows
        cases hfollows
      simp [hkept, hbefore, Stage.ne_aborted_of_next? hfollows]
  | aborts => simp

theorem isSome_abortedAt_after (history : List Operation) :
    (fresh.after history).abortedAt.isSome = true ↔
      (fresh.after history).stage = .aborted := by
  induction history using List.reverseRecOn with
  | nil => decide
  | append_singleton history operation ih =>
      rw [after_concat]
      exact isSome_abortedAt_step ih

/-! ## The stages that are visited -/

/-- A way through the stages from one on, which an abort can cut short. -/
def IsCourse (stage : Stage) (stages : List Stage) : Prop :=
  ∃ way, way ≠ [] ∧ way <+: Stage.inOrder.drop stage.ordinal ∧
    (stages = way ∨ .done ∉ way ∧ stages = way ++ [.aborted])

theorem visited_of_isTerminal (hended : progress.stage.isTerminal = true)
    (history : List Operation) : progress.visited history = [progress.stage] := by
  induction history with
  | nil => rfl
  | cons operation rest ih =>
      rw [visited, step_of_isTerminal hended, if_pos rfl]
      exact ih

theorem isCourse_visited (progress : Progress) (hstage : progress.stage ≠ .aborted)
    (history : List Operation) : IsCourse progress.stage (progress.visited history) := by
  induction history generalizing progress with
  | nil =>
      refine ⟨[progress.stage], by simp, ?_, Or.inl rfl⟩
      rw [Stage.inOrder_drop hstage]
      exact List.prefix_append [_] _
  | cons operation rest ih =>
      have hsteps := steps_step progress operation
      rw [visited]
      generalize progress.step operation = next at hsteps ⊢
      cases hsteps with
      | stays =>
          rw [if_pos rfl]
          exact ih progress hstage
      | @moves following _ hfollows =>
          have hne : following ≠ progress.stage := (Stage.ne_of_next? hfollows).symm
          rw [if_neg hne]
          obtain ⟨way, -, hway, hstages⟩ :=
            ih { progress with stage := following } (Stage.ne_aborted_of_next? hfollows)
          refine ⟨progress.stage :: way, by simp, ?_, ?_⟩
          · rw [Stage.inOrder_drop hstage, hfollows]
            exact (List.prefix_cons_inj _).mpr hway
          · rcases hstages with hstages | ⟨hdone, hstages⟩
            · exact Or.inl (congrArg _ hstages)
            · refine Or.inr ⟨?_, congrArg _ hstages⟩
              rw [List.mem_cons, not_or]
              exact ⟨(Stage.ne_done_of_next? hfollows).symm, hdone⟩
      | aborts _ hgoes =>
          rw [if_neg hstage.symm, visited_of_isTerminal rfl]
          refine ⟨[progress.stage], by simp, ?_, Or.inr ⟨?_, rfl⟩⟩
          · rw [Stage.inOrder_drop hstage]
            exact List.prefix_append [_] _
          · rintro hdone
            rw [← List.mem_singleton.mp hdone] at hgoes
            cases hgoes

theorem isCourse_visited_fresh (history : List Operation) :
    IsCourse .start (fresh.visited history) :=
  isCourse_visited fresh (by decide) history

/-- An operation that leads to another stage visits it. -/
theorem visited_concat
    (hne : ((progress.after history).step operation).stage ≠ (progress.after history).stage) :
    progress.visited (history ++ [operation]) =
      progress.visited history ++ [((progress.after history).step operation).stage] := by
  induction history generalizing progress with
  | nil =>
      rw [List.nil_append, visited]
      exact if_neg hne
  | cons first rest ih =>
      rw [List.cons_append, visited, visited, ih hne]
      split_ifs <;> rfl

theorem getLast?_visited (history : List Operation) :
    (progress.visited history).getLast? = some (progress.after history).stage := by
  induction history generalizing progress with
  | nil => rfl
  | cons operation rest ih =>
      rw [visited]
      split_ifs
      · exact ih
      · rw [List.getLast?_cons, ih]
        rfl

theorem nodup_visited (history : List Operation) : (fresh.visited history).Nodup := by
  obtain ⟨way, -, hway, hstages⟩ := isCourse_visited_fresh history
  have hsublist : way.Sublist Stage.inOrder := hway.sublist
  have hnodup : way.Nodup := hsublist.nodup Stage.nodup_inOrder
  rcases hstages with hstages | ⟨-, hstages⟩
  · rwa [hstages]
  · rw [hstages, ← List.concat_eq_append, List.nodup_concat]
    exact ⟨fun hmem => Stage.aborted_not_mem_inOrder (hsublist.mem hmem), hnodup⟩

/-- A run cleans up right after it has stopped services. -/
theorem adjacent_visited (hmem : .cleaningArtifacts ∈ fresh.visited history) :
    [.stoppingServices, .cleaningArtifacts] <:+: fresh.visited history := by
  obtain ⟨way, -, hway, hstages⟩ := isCourse_visited_fresh history
  have hclean : .cleaningArtifacts ∈ way := by
    rcases hstages with hstages | ⟨-, hstages⟩ <;> simpa [hstages] using hmem
  have hadjacent := Stage.adjacent_of_way hway hclean
  rcases hstages with hstages | ⟨-, hstages⟩
  · rwa [hstages]
  · rw [hstages]
    exact hadjacent.trans (List.prefix_append _ _).isInfix

/-- An advance enters a stage that was not visited before. -/
theorem not_mem_visited_of_advance (hnext : (fresh.after history).advance = .ok next) :
    next.stage ∉ fresh.visited history := by
  obtain ⟨stage, hfollows, rfl⟩ := advance_eq_ok_iff.mp hnext
  have hstep : (fresh.after history).step .advance = { fresh.after history with stage } :=
    step_of_ok hnext
  have hnodup := nodup_visited (history ++ [.advance])
  rw [visited_concat (by rw [hstep]; exact (Stage.ne_of_next? hfollows).symm), hstep,
    ← List.concat_eq_append, List.nodup_concat] at hnodup
  exact hnodup.1

/-! ## The stage of the abort -/

/-- The history was first aborted with effect when it was in this stage. -/
def AbortedIn (history : List Operation) (stage : Stage) : Prop :=
  ∃ before later, history = before ++ .abort :: later ∧
    (fresh.after before).abort ≠ fresh.after before ∧
    (∀ earlier others, before = earlier ++ .abort :: others →
      (fresh.after earlier).abort = fresh.after earlier) ∧
    (fresh.after before).stage = stage

theorem after_abort {before : List Operation} (later : List Operation)
    (heffect : (fresh.after before).abort ≠ fresh.after before) :
    fresh.after (before ++ .abort :: later) =
      ⟨.aborted, some (fresh.after before).stage⟩ := by
  have hstep : (fresh.after before).step .abort =
      ⟨.aborted, some (fresh.after before).stage⟩ :=
    abort_of_not_isTerminal (abort_ne_self_iff.mp heffect)
  rw [after_append, after, List.foldl_cons, hstep]
  exact after_of_isTerminal rfl later

/-- A run that is aborted was aborted in one stage, which it kept. -/
theorem abortedAt_after_iff : (fresh.after history).abortedAt = some stage ↔
    AbortedIn history stage := by
  constructor
  · intro hkept
    induction history using List.reverseRecOn with
    | nil => cases hkept
    | append_singleton history operation ih =>
        rw [after_concat] at hkept
        have hsteps := steps_step (fresh.after history) operation
        generalize (fresh.after history).step operation = next at hsteps hkept
        cases hsteps with
        | stays =>
            obtain ⟨before, later, rfl, heffect, hfirst, hstage⟩ := ih hkept
            exact ⟨before, later ++ [operation], by simp, heffect, hfirst, hstage⟩
        | moves _ hfollows =>
            obtain ⟨before, later, rfl, heffect, -, -⟩ := ih hkept
            rw [after_abort later heffect] at hfollows
            cases hfollows
        | aborts hoperation hgoes =>
            subst hoperation
            refine ⟨history, [], rfl, abort_ne_self_iff.mpr hgoes, ?_, Option.some.inj hkept⟩
            rintro earlier others rfl
            by_contra heffect
            rw [after_abort others heffect] at hgoes
            cases hgoes
  · rintro ⟨before, later, rfl, heffect, -, rfl⟩
    rw [after_abort later heffect]

/-- What can be said of the progress behind a history, and of the stages that were visited. -/
structure IsOrderly (history : List Operation) (last : Progress) (stages : List Stage) : Prop where
  current : stages.getLast? = some last.stage
  /-- The stages come in their order, up to an abort that comes before the end. -/
  course : ∃ way, way ≠ [] ∧ way <+: Stage.inOrder ∧
    (stages = way ∨ .done ∉ way ∧ stages = way ++ [.aborted])
  cleaning : .cleaningArtifacts ∈ stages → [.stoppingServices, .cleaningArtifacts] <:+: stages
  once : stages.Nodup
  kept : last.abortedAt.isSome = true ↔ last.stage = .aborted
  abortedIn : ∀ stage, last.abortedAt = some stage ↔ AbortedIn history stage
  going : ∀ stage, last.abortedAt = some stage → stage.isTerminal = false
  /-- What has ended stays as it is, whatever it is asked. -/
  ended : last.stage.isTerminal = true → ∀ more, fresh.after (history ++ more) = last
  /-- What is refused leaves no trace. -/
  refused : ∀ operation refusal, last.perform operation = .error refusal →
    ∀ more, fresh.after (history ++ operation :: more) = fresh.after (history ++ more)
  advance : ∀ next, last.advance = .ok next → next.stage ∉ stages
  transitionTo : ∀ target next, last.transitionTo target = .ok next ↔
    last.advance = .ok next ∧ next.stage = target
  onlyAbort : ∀ operation, (fresh.after (history ++ [operation])).stage = .aborted →
    last.stage = .aborted ∨ operation = .abort

/-- However a run is asked to go on, it goes through its stages in their order and through none
twice, and keeps the stage of an abort if and only if it is aborted. -/
theorem after_isOrderly (history : List Operation) :
    IsOrderly history (fresh.after history) (fresh.visited history) where
  current := getLast?_visited history
  course := isCourse_visited_fresh history
  cleaning := adjacent_visited
  once := nodup_visited history
  kept := isSome_abortedAt_after history
  abortedIn stage := abortedAt_after_iff
  going stage hkept := by
    obtain ⟨before, later, -, heffect, -, rfl⟩ := abortedAt_after_iff.mp hkept
    exact abort_ne_self_iff.mp heffect
  ended hended more := by
    rw [after_append]
    exact after_of_isTerminal hended more
  refused operation refusal hrefused more := by
    rw [after_append, after_append, after, List.foldl_cons, step_of_error hrefused]
    rfl
  advance next := not_mem_visited_of_advance
  transitionTo target next := transitionTo_eq_ok_iff_advance
  onlyAbort operation hlast := by
    rw [after_concat] at hlast
    exact aborted_of_step hlast

/-- A run that is aborted while it cleans up, after a stage that was out of order, and is asked for
more. -/
theorem after_isOrderly_aborted :
    let history : List Operation :=
      [.advance, .transitionTo .done, .transitionTo .cleaningArtifacts, .abort, .advance, .abort]
    fresh.after history = ⟨.aborted, some .cleaningArtifacts⟩ ∧
      fresh.visited history = [.start, .stoppingServices, .cleaningArtifacts, .aborted] ∧
      AbortedIn history .cleaningArtifacts ∧
      ∀ more, fresh.after (history ++ more) = ⟨.aborted, some .cleaningArtifacts⟩ := by
  intro history
  have horderly := after_isOrderly history
  exact ⟨rfl, rfl, (horderly.abortedIn _).mp rfl, horderly.ended rfl⟩

end Progress

end Decommission
