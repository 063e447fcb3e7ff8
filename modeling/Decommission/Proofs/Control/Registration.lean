import Decommission.Proofs.Control.Threads
import Decommission.Rehearsal.Processes
import Mathlib.Data.List.Induction
import Mathlib.Data.Finset.Sort

/-!
# Which calls are registered

A call stays in the set from the time it is registered until one of the handles of its group is
given back or a cancellation begins.  As long as no call is registered while another handle of its
group is held, it stays there exactly as long as its own handle is held.  A call that is registered
again while the handle that was taken first is held leaves the set with that handle.
-/

namespace Decommission

/-! ## Histories -/

section Since

variable {starts stops : Happening → Prop} {seen : List Happening} {happening : Happening}

/-- Something that starts it has happened, and nothing since then stops it. -/
def Since (starts stops : Happening → Prop) (seen : List Happening) : Prop :=
  ∃ earlier first later, seen = earlier ++ first :: later ∧ starts first ∧
    ∀ other ∈ later, ¬stops other

theorem not_since_nil : ¬Since starts stops [] := by
  rintro ⟨earlier, first, later, heq, -⟩
  simp at heq

/-- Where something in two lists one after the other is. -/
theorem append_eq_append_cons {α : Type} {front back earlier later : List α} {item : α}
    (heq : front ++ back = earlier ++ item :: later) :
    (∃ rest, front = earlier ++ item :: rest ∧ later = rest ++ back) ∨
      ∃ start, earlier = front ++ start ∧ back = start ++ item :: later := by
  obtain ⟨start, rfl, rfl⟩ | ⟨rest, rfl, hrest⟩ := List.append_eq_append_iff.mp heq
  · exact .inr ⟨start, rfl, rfl⟩
  · cases rest with
    | nil => exact .inr ⟨[], by simp, by simpa using hrest.symm⟩
    | cons first rest =>
        obtain ⟨rfl, rfl⟩ := List.cons.inj hrest
        exact .inl ⟨rest, rfl, rfl⟩

theorem concat_eq_append_cons {α : Type} {front earlier later : List α} {last item : α}
    (heq : front ++ [last] = earlier ++ item :: later) :
    (∃ rest, front = earlier ++ item :: rest ∧ later = rest ++ [last]) ∨
      front = earlier ∧ last = item := by
  obtain hfront | ⟨start, rfl, hlast⟩ := append_eq_append_cons heq
  · exact .inl hfront
  · obtain ⟨rfl, rfl, -⟩ : start = [] ∧ item = last ∧ later = [] := by
      simpa [List.singleton_eq_append_iff] using hlast
    exact .inr ⟨(List.append_nil _).symm, rfl⟩

theorem since_concat : Since starts stops (seen ++ [happening]) ↔
    starts happening ∨ Since starts stops seen ∧ ¬stops happening := by
  constructor
  · rintro ⟨earlier, first, later, heq, hfirst, hlater⟩
    obtain ⟨rest, rfl, rfl⟩ | ⟨rfl, rfl⟩ := concat_eq_append_cons heq
    · exact .inr ⟨⟨earlier, first, rest, rfl, hfirst,
        fun other hmem => hlater other (List.mem_append_left _ hmem)⟩, hlater happening (by simp)⟩
    · exact .inl hfirst
  · rintro (hstarts | ⟨⟨earlier, first, later, rfl, hfirst, hlater⟩, hstops⟩)
    · exact ⟨seen, happening, [], rfl, hstarts, by simp⟩
    · refine ⟨earlier, first, later ++ [happening], by simp, hfirst, ?_⟩
      rintro other hmem
      obtain hmem | hmem := List.mem_append.mp hmem
      · exact hlater other hmem
      · obtain rfl := List.mem_singleton.mp hmem
        exact hstops

end Since

/-- A handle for the group is taken. -/
def Happening.Tracks (group : Group) (happening : Happening) : Prop :=
  ∃ handle, happening = .tracked handle group

/-- A handle for the group is given back. -/
def Happening.Drops (group : Group) (happening : Happening) : Prop :=
  ∃ handle, happening = .dropped handle group

/-- A cancellation begins. -/
def Happening.Takes (happening : Happening) : Prop :=
  ∃ index groups, happening = .taken index groups

/-- The group was registered, and since then no handle for it was given back and no cancellation has
begun. -/
def Registered (seen : List Happening) (group : Group) : Prop :=
  Since (·.Tracks group) (fun happening => happening.Drops group ∨ happening.Takes) seen

/-- This handle for the group was taken, and since then it was not given back and no cancellation
has begun. -/
def HeldBy (seen : List Happening) (handle : Nat) (group : Group) : Prop :=
  Since (· = .tracked handle group)
    (fun happening => happening = .dropped handle group ∨ happening.Takes) seen

/-- The group has a handle that was taken since the last cancellation and not given back. -/
def Held (seen : List Happening) (group : Group) : Prop :=
  ∃ handle, HeldBy seen handle group

/-- Whenever a handle for the group was taken, those that were taken before had been given back. -/
def Solitary (seen : List Happening) (group : Group) : Prop :=
  ∀ earlier handle later, seen = earlier ++ .tracked handle group :: later →
    ∀ other, .tracked other group ∈ earlier → .dropped other group ∈ earlier

section Histories

variable {seen more : List Happening} {handle other index : Nat} {group another : Group}
variable {groups : List Group} {deed : Deed}

@[simp]
theorem registered_tracked : Registered (seen ++ [.tracked other another]) group ↔
    another = group ∨ Registered seen group := by
  simp [Registered, since_concat, Happening.Tracks, Happening.Drops, Happening.Takes]

@[simp]
theorem registered_dropped : Registered (seen ++ [.dropped other another]) group ↔
    Registered seen group ∧ another ≠ group := by
  simp [Registered, since_concat, Happening.Tracks, Happening.Drops, Happening.Takes]

@[simp]
theorem not_registered_taken : ¬Registered (seen ++ [.taken index groups]) group := by
  simp [Registered, since_concat, Happening.Tracks, Happening.Takes]

@[simp]
theorem registered_did : Registered (seen ++ [.did index deed]) group ↔
    Registered seen group := by
  simp [Registered, since_concat, Happening.Tracks, Happening.Drops, Happening.Takes]

@[simp]
theorem heldBy_tracked : HeldBy (seen ++ [.tracked other another]) handle group ↔
    other = handle ∧ another = group ∨ HeldBy seen handle group := by
  simp [HeldBy, since_concat, Happening.Takes]

@[simp]
theorem heldBy_dropped : HeldBy (seen ++ [.dropped other another]) handle group ↔
    HeldBy seen handle group ∧ ¬(other = handle ∧ another = group) := by
  simp [HeldBy, since_concat, Happening.Takes]

@[simp]
theorem not_heldBy_taken : ¬HeldBy (seen ++ [.taken index groups]) handle group := by
  simp [HeldBy, since_concat, Happening.Takes]

@[simp]
theorem heldBy_did : HeldBy (seen ++ [.did index deed]) handle group ↔
    HeldBy seen handle group := by
  simp [HeldBy, since_concat, Happening.Takes]

theorem Registered.held (hregistered : Registered seen group) : Held seen group := by
  obtain ⟨earlier, first, later, rfl, ⟨handle, rfl⟩, hlater⟩ := hregistered
  refine ⟨handle, earlier, _, later, rfl, rfl, fun other hmem hstops => hlater other hmem ?_⟩
  exact hstops.imp_left fun hdropped => ⟨handle, hdropped⟩

theorem Solitary.of_append (hsolitary : Solitary (seen ++ more) group) : Solitary seen group := by
  rintro earlier handle later rfl
  exact hsolitary earlier handle (later ++ more) (by simp)

theorem Solitary.dropped_of_tracked (hsolitary : Solitary (seen ++ [.tracked handle group]) group)
    (htracked : .tracked other group ∈ seen) : .dropped other group ∈ seen :=
  hsolitary seen handle [] rfl other htracked

end Histories

/-! ## The set and the history -/

namespace Threads

variable {γ : Type} {threads : Threads γ} {seen : List Happening} {group : Group}

/-- A handle for the group is held. -/
def IsLive (threads : Threads γ) (handle : Nat) (group : Group) : Prop :=
  threads.handles[handle]? = some (some group)

/-- How the set and the handles go with what has happened. -/
structure Registration (seen : List Happening) (threads : Threads γ) : Prop where
  sorted : threads.calls.groups.Pairwise (· < ·)
  mem_groups : ∀ group, group ∈ threads.calls.groups ↔ Registered seen group
  tracked : ∀ handle group, threads.IsLive handle group → .tracked handle group ∈ seen
  undropped : ∀ handle group, threads.IsLive handle group → .dropped handle group ∉ seen
  lt_length : ∀ handle group, .dropped handle group ∈ seen → handle < threads.handles.length
  live : ∀ handle group, HeldBy seen handle group → threads.IsLive handle group
  unique : ∀ group, Solitary seen group → ∀ handle other, threads.IsLive handle group →
    threads.IsLive other group → handle = other
  registered : ∀ group, Solitary seen group → Held seen group → Registered seen group

theorem registration_fresh (state : γ) : Registration [] (fresh state) where
  sorted := .nil
  mem_groups := by simp [fresh, Calls.none, Registered, not_since_nil]
  tracked := by simp [IsLive, fresh]
  undropped := by simp
  lt_length := by simp
  live handle group hheld := absurd hheld not_since_nil
  unique := by simp [IsLive, fresh]
  registered group _ hheld := by
    obtain ⟨handle, hheld⟩ := hheld
    exact absurd hheld not_since_nil

section Step

variable {next : Threads γ} {handle : Nat}

theorem isLive_concat {other : Group} (hhandles : next.handles = threads.handles ++ [some group]) :
    next.IsLive handle other ↔
      threads.IsLive handle other ∨ handle = threads.handles.length ∧ other = group := by
  rw [IsLive, hhandles, List.getElem?_append]
  split
  · rename_i hlt
    simp [IsLive, hlt.ne]
  · rename_i hge
    have hnone : ¬threads.IsLive handle other := by
      rw [IsLive, List.getElem?_eq_none (Nat.le_of_not_lt hge)]
      simp
    rw [List.getElem?_singleton, or_iff_right hnone]
    have hindex : handle - threads.handles.length = 0 ↔ handle = threads.handles.length := by
      omega
    simp [hindex, eq_comm]

theorem isLive_set {other : Nat} (hhandles : next.handles = threads.handles.set handle none) :
    next.IsLive other group ↔ threads.IsLive other group ∧ other ≠ handle := by
  rw [IsLive, IsLive, hhandles, List.getElem?_set]
  split
  · rename_i heq
    simp [heq]
  · rename_i hne
    simp [Ne.symm hne]

/-- A handle that is the only one of its group is taken when all others have been given back. -/
theorem Registration.not_isLive (hregistration : Registration seen threads)
    (hsolitary : Solitary (seen ++ [.tracked handle group]) group) (other : Nat) :
    ¬threads.IsLive other group := fun hlive =>
  hregistration.undropped other group hlive
    (hsolitary.dropped_of_tracked (hregistration.tracked other group hlive))

theorem Registration.tracked_step (hregistration : Registration seen threads)
    (hcalls : next.calls = threads.calls.track group)
    (hhandles : next.handles = threads.handles ++ [some group]) :
    Registration (seen ++ [.tracked threads.handles.length group]) next := by
  have hlive (handle : Nat) (other : Group) : next.IsLive handle other ↔
      threads.IsLive handle other ∨ handle = threads.handles.length ∧ other = group :=
    isLive_concat hhandles
  exact {
    sorted := by
      rw [hcalls]
      exact Calls.sorted_insert hregistration.sorted group
    mem_groups := fun other => by
      rw [hcalls, Calls.mem_track, registered_tracked, hregistration.mem_groups, eq_comm]
    tracked := fun handle other hother => by
      obtain hold | ⟨rfl, rfl⟩ := (hlive handle other).mp hother
      · simp [hregistration.tracked handle other hold]
      · simp
    undropped := fun handle other hother => by
      obtain hold | ⟨rfl, rfl⟩ := (hlive handle other).mp hother
      · simp [hregistration.undropped handle other hold]
      · intro hdropped
        have hlt := hregistration.lt_length _ _ (by simpa using hdropped)
        omega
    lt_length := fun handle other hdropped => by
      have hlt := hregistration.lt_length handle other (by simpa using hdropped)
      rw [hhandles, List.length_append]
      omega
    live := fun handle other hheld => by
      rw [hlive]
      obtain ⟨rfl, rfl⟩ | hold := heldBy_tracked.mp hheld
      · exact .inr ⟨rfl, rfl⟩
      · exact .inl (hregistration.live handle other hold)
    unique := fun other hsolitary first second hfirst hsecond => by
      obtain hfirst | ⟨rfl, rfl⟩ := (hlive first other).mp hfirst <;>
        obtain hsecond | ⟨rfl, hgroup⟩ := (hlive second other).mp hsecond
      · exact hregistration.unique other hsolitary.of_append first second hfirst hsecond
      · subst hgroup
        exact absurd hfirst (hregistration.not_isLive hsolitary first)
      · exact absurd hsecond (hregistration.not_isLive hsolitary second)
      · rfl
    registered := fun other hsolitary ⟨handle, hheld⟩ => by
      rw [registered_tracked]
      obtain ⟨-, hgroup⟩ | hold := heldBy_tracked.mp hheld
      · exact .inl hgroup
      · exact .inr (hregistration.registered other hsolitary.of_append ⟨handle, hold⟩) }

theorem Registration.dropped_step (hregistration : Registration seen threads)
    (hheld : threads.IsLive handle group) (hcalls : next.calls = threads.calls.release group)
    (hhandles : next.handles = threads.handles.set handle none) :
    Registration (seen ++ [.dropped handle group]) next := by
  have hlive (other : Nat) (another : Group) : next.IsLive other another ↔
      threads.IsLive other another ∧ other ≠ handle :=
    isLive_set hhandles
  exact {
    sorted := by
      rw [hcalls]
      exact hregistration.sorted.filter _
    mem_groups := fun other => by
      rw [hcalls, Calls.mem_release, registered_dropped, hregistration.mem_groups, ne_comm]
    tracked := fun other another hother => by
      simp [hregistration.tracked other another ((hlive other another).mp hother).1]
    undropped := fun other another hother => by
      obtain ⟨hold, hne⟩ := (hlive other another).mp hother
      simp [hregistration.undropped other another hold, hne]
    lt_length := fun other another hdropped => by
      rw [hhandles, List.length_set]
      obtain hold | hnew := List.mem_append.mp hdropped
      · exact hregistration.lt_length other another hold
      · cases List.mem_singleton.mp hnew
        exact (List.getElem?_eq_some_iff.mp hheld).1
    live := fun other another hother => by
      obtain ⟨hold, hne⟩ := heldBy_dropped.mp hother
      have hlive' := hregistration.live other another hold
      refine (hlive other another).mpr ⟨hlive', ?_⟩
      rintro rfl
      rw [IsLive, hheld] at hlive'
      exact hne ⟨rfl, by simpa using hlive'⟩
    unique := fun other hsolitary first second hfirst hsecond =>
      hregistration.unique other hsolitary.of_append first second
        ((hlive first other).mp hfirst).1 ((hlive second other).mp hsecond).1
    registered := fun other hsolitary ⟨another, hanother⟩ => by
      obtain ⟨hold, hne⟩ := heldBy_dropped.mp hanother
      refine registered_dropped.mpr
        ⟨hregistration.registered other hsolitary.of_append ⟨another, hold⟩, ?_⟩
      rintro rfl
      exact hne ⟨hregistration.unique group hsolitary.of_append _ _ hheld
        (hregistration.live another group hold), rfl⟩ }

theorem Registration.taken_step (hregistration : Registration seen threads) {index : Nat}
    {groups : List Group} (hcalls : next.calls = .none)
    (hhandles : next.handles = threads.handles) :
    Registration (seen ++ [.taken index groups]) next where
  sorted := by
    rw [hcalls]
    exact .nil
  mem_groups := by simp [hcalls, Calls.none]
  tracked handle group hlive := by
    rw [IsLive, hhandles] at hlive
    simp [hregistration.tracked handle group hlive]
  undropped handle group hlive := by
    rw [IsLive, hhandles] at hlive
    simp [hregistration.undropped handle group hlive]
  lt_length handle group hdropped := by
    rw [hhandles]
    exact hregistration.lt_length handle group (by simpa using hdropped)
  live handle group hheld := absurd hheld not_heldBy_taken
  unique group hsolitary handle other hfirst hsecond := by
    rw [IsLive, hhandles] at hfirst hsecond
    exact hregistration.unique group hsolitary.of_append handle other hfirst hsecond
  registered group _ hheld := by
    obtain ⟨handle, hheld⟩ := hheld
    exact absurd hheld not_heldBy_taken

theorem Registration.congr (hregistration : Registration seen threads)
    (hcalls : next.calls = threads.calls) (hhandles : next.handles = threads.handles) :
    Registration seen next := by
  obtain ⟨_, _, _, _⟩ := next
  cases hcalls
  cases hhandles
  exact { hregistration with }

/-- What is done to the groups changes neither the set nor the handles. -/
theorem Registration.did_step (hregistration : Registration seen threads) (index : Nat)
    (deeds : List Deed) : Registration (seen ++ deeds.map (.did index)) threads := by
  induction deeds using List.reverseRecOn with
  | nil =>
      rw [List.map_nil, List.append_nil]
      exact hregistration
  | append_singleton deeds deed ih =>
      rw [List.map_append, ← List.append_assoc, List.map_singleton]
      exact {
        sorted := ih.sorted
        mem_groups := fun group => by rw [registered_did, ih.mem_groups]
        tracked := fun handle group hlive => List.mem_append_left _ (ih.tracked handle group hlive)
        undropped := fun handle group hlive => by simpa using ih.undropped handle group hlive
        lt_length := fun handle group hdropped => ih.lt_length handle group (by simpa using hdropped)
        live := fun handle group hheld => ih.live handle group (heldBy_did.mp hheld)
        unique := fun group hsolitary => ih.unique group hsolitary.of_append
        registered := fun group hsolitary ⟨handle, hheld⟩ =>
          registered_did.mpr
            (ih.registered group hsolitary.of_append ⟨handle, heldBy_did.mp hheld⟩) }

end Step

variable {system : Groups γ}

theorem Registration.step {move : Move γ} {result : Threads γ × List Happening}
    (hmakes : move.Makes system threads result) (hregistration : Registration seen threads) :
    Registration (seen ++ result.2) result.1 := by
  cases hmakes with
  | tracked => exact hregistration.tracked_step rfl rfl
  | dropped hheld => exact hregistration.dropped_step hheld rfl rfl
  | taken => exact hregistration.taken_step rfl rfl
  | did => exact (hregistration.did_step _ _).congr rfl rfl
  | changed => exact (hregistration.did_step 0 []).congr rfl rfl
  | idle => exact hregistration.did_step 0 []

theorem registration_play (system : Groups γ) (state : γ) (moves : List (Move γ)) :
    Registration ((fresh state).play system moves).2 ((fresh state).play system moves).1 :=
  keeps_play Registration system moves
    (fun _ _ _ _ _ hmakes hregistration => hregistration.step hmakes) (registration_fresh state)

end Threads

/-! ## What a cancellation takes -/

/-- Every cancellation took the groups that were registered when it began, each once. -/
def TakesRegistered (seen : List Happening) : Prop :=
  ∀ earlier index groups later, seen = earlier ++ .taken index groups :: later →
    groups.Nodup ∧ ∀ group, group ∈ groups ↔ Registered earlier group

section Takings

variable {seen more : List Happening} {index : Nat} {groups : List Group}

theorem TakesRegistered.append (htakes : TakesRegistered seen)
    (hmore : ∀ happening ∈ more, ¬happening.Takes) : TakesRegistered (seen ++ more) := by
  rintro earlier index groups later heq
  obtain ⟨rest, rfl, -⟩ | ⟨start, -, rfl⟩ := append_eq_append_cons heq
  · exact htakes earlier index groups rest rfl
  · exact absurd ⟨index, groups, rfl⟩ (hmore (.taken index groups) (by simp))

theorem TakesRegistered.concat (htakes : TakesRegistered seen) (hnodup : groups.Nodup)
    (hgroups : ∀ group, group ∈ groups ↔ Registered seen group) :
    TakesRegistered (seen ++ [.taken index groups]) := by
  rintro earlier other others later heq
  obtain ⟨rest, rfl, -⟩ | ⟨rfl, htaken⟩ := concat_eq_append_cons heq
  · exact htakes earlier other others rest rfl
  · cases htaken
    exact ⟨hnodup, hgroups⟩

/-- What a later cancellation takes was registered after the earlier one had begun. -/
theorem TakesRegistered.exists_tracked {earlier between later : List Happening}
    {index other : Nat} {groups others : List Group} (htakes : TakesRegistered
      (earlier ++ .taken index groups :: (between ++ .taken other others :: later)))
    {group : Group} (hgroup : group ∈ others) : ∃ handle, .tracked handle group ∈ between := by
  have hothers := (htakes (earlier ++ .taken index groups :: between) other others later
    (by simp)).2 group
  obtain ⟨front, first, back, heq, ⟨handle, rfl⟩, hback⟩ := hothers.mp hgroup
  rw [← List.singleton_append, ← List.append_assoc] at heq
  obtain ⟨rest, hfront, rfl⟩ | ⟨start, -, rfl⟩ := append_eq_append_cons heq
  · obtain ⟨rest, -, rfl⟩ | ⟨-, hlast⟩ := concat_eq_append_cons hfront
    · exact absurd (.inr ⟨index, groups, rfl⟩) (hback (.taken index groups) (by simp))
    · cases hlast
  · exact ⟨handle, by simp⟩

end Takings

namespace Threads

variable {γ : Type} {threads : Threads γ} {seen : List Happening}

theorem Registration.takes_step {system : Groups γ} {move : Move γ}
    {result : Threads γ × List Happening} (hmakes : move.Makes system threads result)
    (hregistration : Registration seen threads) (htakes : TakesRegistered seen) :
    TakesRegistered (seen ++ result.2) := by
  cases hmakes with
  | tracked => exact htakes.append (by simp [Happening.Takes])
  | dropped => exact htakes.append (by simp [Happening.Takes])
  | taken => exact htakes.concat (hregistration.sorted.imp Nat.ne_of_lt) hregistration.mem_groups
  | did => exact htakes.append (by simp [Happening.Takes])
  | changed => exact htakes.append (by simp)
  | idle => exact htakes.append (by simp)

theorem takesRegistered_play (system : Groups γ) (state : γ) (moves : List (Move γ)) :
    TakesRegistered ((fresh state).play system moves).2 := by
  have hstart : Registration [] (fresh state) ∧ TakesRegistered [] :=
    ⟨registration_fresh state, by simp [TakesRegistered]⟩
  have hplay := keeps_play (fun seen threads => Registration seen threads ∧ TakesRegistered seen)
    system moves (fun _ _ _ _ _ hmakes ⟨hregistration, htakes⟩ =>
      ⟨hregistration.step hmakes, hregistration.takes_step hmakes htakes⟩) hstart
  exact hplay.2

/-! ## How long a call stays registered -/

/-- What the set tells of the handles. -/
structure Registers (seen : List Happening) (threads : Threads γ) : Prop where
  mem_groups : ∀ group, group ∈ threads.calls.groups ↔ Registered seen group
  /-- Each group counts once. -/
  inFlight : ∀ groups : Finset Group, (∀ group, group ∈ groups ↔ Registered seen group) →
    threads.calls.inFlight = groups.card
  taken : TakesRegistered seen
  held : ∀ group, Registered seen group → Held seen group
  solitary : ∀ group, Solitary seen group → (Registered seen group ↔ Held seen group)

theorem play_registers (system : Groups γ) (state : γ) (moves : List (Move γ)) :
    Registers ((fresh state).play system moves).2 ((fresh state).play system moves).1 := by
  have hregistration := registration_play system state moves
  have htakes := takesRegistered_play system state moves
  generalize (fresh state).play system moves = played at hregistration htakes
  exact {
    mem_groups := hregistration.mem_groups
    inFlight := fun groups hgroups => by
      have hnodup : played.1.calls.groups.Nodup := hregistration.sorted.imp Nat.ne_of_lt
      rw [Calls.inFlight, ← List.toFinset_card_of_nodup hnodup]
      congr 1
      ext group
      rw [List.mem_toFinset, hgroups, hregistration.mem_groups]
    taken := htakes
    held := fun group => Registered.held
    solitary := fun group hsolitary =>
      ⟨Registered.held, hregistration.registered group hsolitary⟩ }

open Rehearsal in
/-- A call can be registered again once its handle has been given back. -/
theorem play_registers_again :
    let played := (fresh { table := [(1, .started .hang)] }).play Processes.groups
      [.track 1, .drop 0, .track 1]
    Registered played.2 1 ∧ Held played.2 1 := by
  intro played
  have hregisters := play_registers Processes.groups { table := [(1, .started .hang)] }
    [.track 1, .drop 0, .track 1]
  have hseen : played.2 = [.tracked 0 1, .dropped 0 1, .tracked 1 1] := rfl
  have hsolitary : Solitary played.2 1 := by
    rw [hseen]
    rintro (_ | ⟨first, _ | ⟨second, _ | ⟨third, earlier⟩⟩⟩) handle later heq other htracked
    · simp at htracked
    · simp at heq
    · cases heq
      simpa using htracked
    · simp at heq
  have hheld : Held played.2 1 := by
    rw [hseen]
    exact ⟨1, [.tracked 0 1, .dropped 0 1], _, [], rfl, rfl, by simp⟩
  exact ⟨(hregisters.solitary 1 hsolitary).mpr hheld, hheld⟩

open Rehearsal in
/-- A call that is registered again leaves the set with the handle that was taken first, also when a
cancellation began in between. -/
theorem exists_unregistered_handle :
    let played := (fresh { table := [(1, .started .hang)] }).play Processes.groups
      [.track 1, .track 1, .drop 0]
    let cancelled := (fresh { table := [(1, .started .hang)] }).play Processes.groups
      [.track 1, .cancel 0, .track 1, .drop 0]
    (Held played.2 1 ∧ 1 ∉ played.1.calls.groups ∧ played.1.calls.inFlight = 0) ∧
      Held cancelled.2 1 ∧ 1 ∉ cancelled.1.calls.groups ∧ cancelled.1.calls.inFlight = 0 := by
  have hlater : ∀ other ∈ [Happening.dropped 0 1],
      ¬(other = .dropped 1 1 ∨ other.Takes) := by
    simp [Happening.Takes]
  refine ⟨⟨⟨1, [.tracked 0 1], .tracked 1 1, [.dropped 0 1], rfl, rfl, hlater⟩, by decide, rfl⟩,
    ⟨1, [.tracked 0 1, .taken 0 [1]], .tracked 1 1, [.dropped 0 1], rfl, rfl, hlater⟩,
    by decide, rfl⟩

end Threads

end Decommission
