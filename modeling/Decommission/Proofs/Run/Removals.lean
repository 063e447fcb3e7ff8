import Decommission.Proofs.Run.Events
import Decommission.Proofs.Run.Fatal
import Decommission.Proofs.Run.Moment

/-!
# Removals in a run

A run removes nothing but its targets, and each of them only right after it was found.  Up to a
removal all has gone well, so the files are still a tree; and one whose directories are older than
what lies below them remains a tree even if a removal fails halfway.
-/

namespace Decommission

/-- Each removal is one of these targets, which was looked for and found just before. -/
def Guarded (targets : List Target) (events : List Event) : Prop :=
  ∀ earlier target answer later, events = earlier ++ .removed target answer :: later →
    target ∈ targets ∧ ∃ front stamp, earlier =
      front ++ [.tested target true, .said stamp ("Removing " ++ target.path.display)]

namespace Guarded

variable {targets : List Target} {events more : List Event}

theorem of_not_removed (hevents : ∀ target answer, .removed target answer ∉ events) :
    Guarded targets events := by
  intro earlier target answer later hsplit
  have hmem : .removed target answer ∈ events := by
    rw [hsplit]
    simp
  exact absurd hmem (hevents target answer)

theorem append (hevents : Guarded targets events) (hmore : Guarded targets more) :
    Guarded targets (events ++ more) := by
  intro earlier target answer later hsplit
  rcases List.append_eq_append_iff.mp hsplit with ⟨gap, rfl, hlater⟩ | ⟨gap, hearlier, hlater⟩
  · obtain ⟨htarget, front, stamp, rfl⟩ := hmore gap target answer later hlater
    exact ⟨htarget, events ++ front, stamp, (List.append_assoc _ _ _).symm⟩
  · cases gap with
    | nil =>
        -- The removal begins the second part, where it would have to follow something.
        obtain ⟨-, front, stamp, hfront⟩ := hmore [] target answer later hlater.symm
        simp at hfront
    | cons event gap =>
        obtain ⟨rfl, -⟩ := List.cons.inj hlater
        exact hevents earlier target answer gap hearlier

theorem mono {others : List Target} (hevents : Guarded targets events)
    (hmore : ∀ target ∈ targets, target ∈ others) : Guarded others events := by
  intro earlier target answer later hsplit
  obtain ⟨htarget, hfront⟩ := hevents earlier target answer later hsplit
  exact ⟨hmore target htarget, hfront⟩

end Guarded

theorem Cleaning.guarded {log : RunLog} {dryRun : Bool} {target : Target} {events : List Event}
    {ending : Ending CleanupOutcome} (hclean : Cleaning log dryRun target events ending) :
    Guarded [target] events := by
  have hremoval : ∀ stamp answer event,
      (∀ other answer, Event.removed other answer ≠ event) →
        Guarded [target] [.tested target true,
          .said stamp ("Removing " ++ target.path.display), .removed target answer, event] := by
    intro stamp answer event hevent earlier other answer' later hsplit
    rcases earlier with _ | ⟨first, _ | ⟨second, _ | ⟨third, rest⟩⟩⟩
    · simp at hsplit
    · simp at hsplit
    · simp only [List.cons_append, List.nil_append, List.cons.injEq, Event.removed.injEq]
        at hsplit
      obtain ⟨rfl, rfl, ⟨rfl, -⟩, -⟩ := hsplit
      exact ⟨by simp, [], stamp, rfl⟩
    · simp only [List.cons_append, List.cons.injEq] at hsplit
      obtain ⟨-, -, -, hrest⟩ := hsplit
      have hmem : .removed other answer' ∈ [event] := by
        rw [hrest]
        simp
      exact absurd (List.mem_singleton.mp hmem) (hevent other answer')
  cases hclean with
  | absent => exact .of_not_removed (by simp)
  | rehearsed hdry => exact .of_not_removed (by simp)
  | removed hdry => exact hremoval _ _ _ (by simp)
  | stuck hdry => exact hremoval _ _ _ (by simp)

theorem CleaningAll.guarded {log : RunLog} {dryRun : Bool} {targets : List Target}
    {events : List Event} {ending : Ending (List CleanupOutcome)}
    (hcleans : CleaningAll log dryRun targets events ending) : Guarded targets events := by
  refine InTurn.property_events hcleans (.of_not_removed (by simp))
    (fun _ _ hevents hmore => hevents.append hmore) ?_
  intro target htarget events ending hclean
  exact hclean.guarded.mono (by simpa using htarget)

theorem StoppingAll.guarded {log : RunLog} {policy : StopPolicy} {services : List Service}
    {events : List Event} {ending : Ending (List (String × StopReport))} (targets : List Target)
    (hstops : StoppingAll log policy services events ending) : Guarded targets events := by
  apply Guarded.of_not_removed
  intro target answer hmem
  have hnone := hstops.target?_eq_none _ hmem
  cases hnone

section Running

variable {log : RunLog} {config : Config} {start last : Progress} {events : List Event}
variable {ending : Ending RunReport}

theorem Running.guarded (hrun : Running log config start events ending last) :
    Guarded config.targets events := by
  have hline : ∀ stamp message, Guarded config.targets [.said stamp message] :=
    fun stamp message => .of_not_removed (by simp)
  cases hrun with
  | refused hstart => exact .of_not_removed (by simp)
  | @notStopped events ending other stamp hstart hstops hcut =>
      exact (hline stamp _).append (hstops.guarded config.targets)
  | @notCleaned events reports more ending other stamp hstart hstops hcleans hcut =>
      have hstopped := (hline stamp (Act.opening config)).append (hstops.guarded config.targets)
      exact hstopped.append hcleans.guarded
  | @complete events reports more outcomes stamp stamp' hstart hstops hcleans =>
      have hstopped := (hline stamp (Act.opening config)).append (hstops.guarded config.targets)
      exact (hstopped.append hcleans.guarded).append (hline stamp' _)

/-- Before an event that is no fatal record all has gone smoothly. -/
theorem Records.smooth_before {α : Type} {policy : StopPolicy} {stage : Stage} {event : Event}
    {earlier later : List Event} {ending : Ending α}
    (hrecords : Records log policy stage (earlier ++ event :: later) ending)
    (hevent : ∀ stamp message, event ≠ .trapped stamp message) :
    ∀ event ∈ earlier, event.IsSmooth := by
  cases ending with
  | done value | halted reason =>
      have hsmooth : ∀ other ∈ earlier ++ event :: later, other.IsSmooth := hrecords
      exact fun other hother => hsmooth other (List.mem_append_left _ hother)
  | failed fault =>
      obtain ⟨front, cause, stamp, caller, hsplit, -, hsmooth⟩ := hrecords
      rcases List.append_eq_append_iff.mp hsplit with ⟨gap, rfl, -⟩ | ⟨gap, rfl, hgap⟩
      · exact fun other hother => hsmooth other (List.mem_append_left _ hother)
      · rcases gap with _ | ⟨first, _ | ⟨second, rest⟩⟩
        · simpa using hsmooth
        · simp only [List.cons_append, List.nil_append, List.cons.injEq] at hgap
          exact absurd hgap.2.1.symm (hevent _ _)
        · simp at hgap

theorem Running.smooth_before_removal (hrun : Running log config start events ending last)
    {earlier later : List Event} {target : Target} {answer : Except IoError Unit}
    (hsplit : events = earlier ++ .removed target answer :: later) :
    ∀ event ∈ earlier, event.IsSmooth := by
  subst hsplit
  by_cases hstart : start.stage = .start
  · obtain ⟨stage, hrecords, -⟩ := hrun.records hstart
    exact hrecords.smooth_before (by simp)
  · -- A run that has begun before is refused at once.
    generalize hevents : earlier ++ .removed target answer :: later = events at hrun
    cases hrun with
    | refused hrefused =>
        rcases earlier with _ | ⟨first, rest⟩
        · simp
        · simp at hevents
    | notStopped hfirst => exact absurd hfirst hstart
    | notCleaned hfirst => exact absurd hfirst hstart
    | complete hfirst => exact absurd hfirst hstart

end Running

namespace Moment

variable {moment : Moment}

/-- What opening a file and appending to it leave true is true after a line. -/
theorem written_keeps {property : FileSystem → Prop} (hfiles : property moment.files)
    (hopens : ∀ {files}, property files → ∀ {path object opened},
      files.openAppend path = .ok (object, opened) → property opened)
    (happends : ∀ {files} object bytes, property files → property (files.append object bytes))
    (stamp : Stamp) (message : String) : property (moment.written stamp message).files := by
  rcases moment.written_cases stamp message with hsame | ⟨object, opened, bytes, hattach, hwritten⟩
  · rw [hsame]
    exact hfiles
  · rw [hwritten]
    rcases RunLog.attach_eq_ok hattach with ⟨-, rfl⟩ | ⟨-, hopen⟩
    · exact happends object bytes hfiles
    · exact happends object bytes (hopens hfiles hopen)

theorem isTree_written (htree : moment.files.IsTree) (stamp : Stamp) (message : String) :
    (moment.written stamp message).files.IsTree :=
  written_keeps htree .openAppend (fun object bytes hfiles => hfiles.append object bytes) stamp
    message

/-- As long as all goes smoothly the files remain a tree. -/
theorem isTree_replay {events : List Event} (htree : moment.files.IsTree)
    (htrue : moment.Confirms events) (hsmooth : ∀ event ∈ events, event.IsSmooth) :
    (moment.replay events).files.IsTree := by
  induction events generalizing moment with
  | nil => exact htree
  | cons event rest ih =>
      obtain ⟨hevent, hrest⟩ := htrue
      have hnext : (event.after moment).files.IsTree := by
        cases event with
        | said stamp message | trapped stamp message => exact isTree_written htree stamp message
        | removed target answer =>
            have hanswer : answer = .ok () := hsmooth (.removed target answer) (by simp)
            have hremove : (target.remove moment.files).1 = .ok () := by
              rw [← hanswer]
              exact hevent.symm
            exact Target.isTree_remove htree hremove
        | listed | disabled | bootedOut | paused | tested => exact htree
      exact ih hnext hrest fun other hother => hsmooth other (by simp [hother])

theorem isGrown_written (hgrown : moment.files.IsGrown) (stamp : Stamp) (message : String) :
    (moment.written stamp message).files.IsGrown :=
  written_keeps hgrown .openAppend (fun _ _ hfiles => hfiles.withObjects _) stamp message

/-- A tree that has grown remains one, whatever happens to it. -/
theorem isGrown_replay (hgrown : moment.files.IsGrown) (events : List Event) :
    (moment.replay events).files.IsGrown := by
  induction events generalizing moment with
  | nil => exact hgrown
  | cons event rest ih =>
      apply ih
      cases event with
      | said stamp message | trapped stamp message => exact isGrown_written hgrown stamp message
      | removed target answer => exact Target.isGrown_remove hgrown target
      | listed | disabled | bootedOut | paused | tested => exact hgrown

end Moment

/-- However a run ends, and wherever a removal of its was stopped, the files are a tree. -/
theorem Act.isGrown_run {σ τ : Type} (manager : Manager σ) (clock : Clock τ) (rounds : Nat)
    (config : Config) (scene : Scene σ τ) (hgrown : scene.files.IsGrown) :
    (run manager clock rounds config scene).scene.files.IsGrown := by
  have hmoment := (accounts_run manager clock rounds config scene).1
  have hfirst : scene.moment.files.IsGrown := hgrown
  have hlast := Moment.isGrown_replay hfirst (run manager clock rounds config scene).events
  rwa [← hmoment] at hlast

end Decommission
