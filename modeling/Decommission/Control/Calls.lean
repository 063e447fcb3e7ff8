/-!
# Calls in flight

Every control call runs as a process group of its own.  The groups of the calls that are running are
kept in a set, each once and in order, so that they can be cancelled.
-/

namespace Decommission

abbrev Group := Nat

/-- The groups of the calls that are running. -/
structure Calls where
  groups : List Group
  deriving DecidableEq, Repr

namespace Calls

/-- Puts a number into a list in order, unless it is there. -/
def insert (group : Group) : List Group → List Group
  | [] => [group]
  | other :: rest =>
      if group < other then group :: other :: rest
      else if group = other then other :: rest
      else other :: insert group rest

def none : Calls := ⟨[]⟩

def track (calls : Calls) (group : Group) : Calls := ⟨insert group calls.groups⟩

/-- Takes a call out, whether or not it is registered. -/
def release (calls : Calls) (group : Group) : Calls := ⟨calls.groups.filter (· ≠ group)⟩

def inFlight (calls : Calls) : Nat := calls.groups.length

theorem mem_insert {group other : Group} {groups : List Group} :
    other ∈ insert group groups ↔ other = group ∨ other ∈ groups := by
  induction groups with
  | nil => simp [insert]
  | cons head rest ih =>
      unfold insert
      split
      · simp
      · split
        · rename_i heq
          subst heq
          simp
        · simp only [List.mem_cons, ih]
          constructor
          · rintro (h | h | h) <;> simp [h]
          · rintro (h | h | h) <;> simp [h]

theorem sorted_insert {groups : List Group} (hsorted : groups.Pairwise (· < ·))
    (group : Group) : (insert group groups).Pairwise (· < ·) := by
  induction hsorted with
  | nil => simp [insert]
  | @cons head rest hhead hrest ih =>
      unfold insert
      split
      · rename_i hlt
        refine .cons ?_ (.cons hhead hrest)
        rintro other hmem
        obtain rfl | hmem := List.mem_cons.mp hmem
        · exact hlt
        · exact Nat.lt_trans hlt (hhead other hmem)
      · rename_i hnotLt
        split
        · exact .cons hhead hrest
        · rename_i hne
          refine .cons ?_ ih
          rintro other hmem
          obtain rfl | hmem := mem_insert.mp hmem
          · exact Nat.lt_of_le_of_ne (Nat.le_of_not_lt hnotLt) (Ne.symm hne)
          · exact hhead other hmem

theorem count_insert_le (group : Group) (groups : List Group) (other : Group) :
    (insert group groups).count other ≤ (group :: groups).count other := by
  induction groups with
  | nil => exact Nat.le_refl _
  | cons head rest ih =>
      unfold insert
      split
      · exact Nat.le_refl _
      · split
        · exact List.count_le_count_cons
        · simp only [List.count_cons] at ih ⊢
          omega

@[simp]
theorem mem_track {calls : Calls} {group other : Group} :
    other ∈ (calls.track group).groups ↔ other = group ∨ other ∈ calls.groups :=
  mem_insert

@[simp]
theorem mem_release {calls : Calls} {group other : Group} :
    other ∈ (calls.release group).groups ↔ other ∈ calls.groups ∧ other ≠ group := by
  simp [release]

end Calls

end Decommission
