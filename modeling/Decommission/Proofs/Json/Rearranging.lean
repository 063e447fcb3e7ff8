import Decommission.Proofs.Json.Members
import Decommission.Proofs.Json.Printing
import Mathlib.Logic.Relation

/-!
# Rearranging members

The members of an object may stand in any order, in every object of a value.  What the value stands
for does not depend on that.
-/

namespace Decommission.Json

/-- Values that differ in the order of the members of one object. -/
inductive Value.Permutes : Value → Value → Prop where
  | members {members others : List (String × Value)} (hperm : members.Perm others) :
      Permutes (.object members) (.object others)
  | element {before after : List Value} {value other : Value} (hpermutes : Permutes value other) :
      Permutes (.list (before ++ value :: after)) (.list (before ++ other :: after))
  | member {before after : List (String × Value)} {key : String} {value other : Value}
      (hpermutes : Permutes value other) :
      Permutes (.object (before ++ (key, value) :: after))
        (.object (before ++ (key, other) :: after))

/-- Values that differ in the order of the members of their objects. -/
def Value.Rearranges : Value → Value → Prop :=
  Relation.ReflTransGen Permutes

/-- What a value stands for does not depend on the order of members. -/
def Stable {α : Type} (decode : Tree → Option α) : Prop :=
  ∀ ⦃value other : Value⦄, value.Permutes other → decode value.tree = decode other.tree

section Stability

variable {α β : Type} {decode : Tree → Option α}

theorem Stable.rearranges (hstable : Stable decode) {value other : Value}
    (hrearranges : value.Rearranges other) : decode value.tree = decode other.tree := by
  induction hrearranges with
  | refl => rfl
  | tail _ hpermutes ih => exact ih.trans (hstable hpermutes)

theorem Stable.map (hstable : Stable decode) (f : α → β) : Stable fun tree => (decode tree).map f :=
  fun _ _ hpermutes => congrArg (Option.map f) (hstable hpermutes)

theorem Stable.bind (hstable : Stable decode) (f : α → Option β) :
    Stable fun tree => (decode tree).bind f :=
  fun _ _ hpermutes => congrArg (Option.bind · f) (hstable hpermutes)

theorem stable_text? : Stable Tree.text? := by
  rintro _ _ (_ | _ | _) <;> rfl

theorem stable_boolean? : Stable Tree.boolean? := by
  rintro _ _ (_ | _ | _) <;> rfl

theorem stable_unsigned? : Stable Tree.unsigned? := by
  rintro _ _ (_ | _ | _) <;> rfl

theorem stable_list? (hstable : Stable decode) : Stable (Tree.list? decode) := by
  rintro _ _ (_ | hpermutes | _)
  · rfl
  · simp only [Value.tree, Value.trees_eq_map, Tree.list?, List.map_append, List.map_cons,
      List.mapM_append, List.mapM_cons, hstable hpermutes]
  · rfl

end Stability

/-! ## Records -/

section Records

variable {σ α : Type} {Doomed : σ → Prop}

structure FieldMeaning.IsStable (meaning : FieldMeaning Doomed) : Prop where
  member : ∀ record, Stable (meaning.member record)
  element : ∀ record, Stable (meaning.element record)

theorem FieldMeaning.IsStable.plain {name : String} {get : σ → Option α} {set : σ → α → σ}
    {read : Cursor → Except ReadError (α × Cursor)} {decode : Tree → Option α}
    {hreads : Reads read decode} (hstable : Stable decode) :
    (FieldMeaning.plain name get set read decode hreads).IsStable where
  member record := hstable.map (set record)
  element record := hstable.map (set record)

variable {fields : List (FieldMeaning Doomed)}

theorem gatherMember_congr (hstable : ∀ meaning ∈ fields, meaning.IsStable) {value other : Value}
    (hpermutes : value.Permutes other) (record : σ) (name : Option String) :
    gatherMember fields record (name, value.tree) =
      gatherMember fields record (name, other.tree) := by
  cases name with
  | none => rfl
  | some key =>
      cases hfind : fields.find? fun meaning => meaning.field.name = key with
      | none => simp only [gatherMember, hfind]
      | some meaning =>
          rw [gatherMember_of_find? hfind, gatherMember_of_find? hfind,
            (hstable meaning (name_of_find? hfind).1).member record hpermutes]

theorem gatherList_congr (hstable : ∀ meaning ∈ fields, meaning.IsStable) {value other : Value}
    (hpermutes : value.Permutes other) (short : Nat → Option Cause) (count : Nat) (record : σ)
    (before after : List Tree) :
    gatherList short fields count record (before ++ value.tree :: after) =
      gatherList short fields count record (before ++ other.tree :: after) := by
  induction before generalizing fields count record with
  | nil =>
      cases fields with
      | nil => rfl
      | cons meaning fields =>
          simp only [List.nil_append, gatherList,
            (hstable meaning List.mem_cons_self).element record hpermutes]
  | cons tree before ih =>
      cases fields with
      | nil => rfl
      | cons meaning fields =>
          simp only [List.cons_append, gatherList]
          refine congrArg _ (funext fun next => ?_)
          exact ih (fun other hmem => hstable other (List.mem_cons_of_mem meaning hmem)) _ next

/-- A record is the same in every order of its members. -/
theorem Meaning.stable_decode {format : Record σ α} (meaning : Meaning format)
    (hcommute : meaning.fields.Pairwise FieldMeaning.Commutes)
    (hmarks : ∀ field ∈ meaning.fields, field.Marks)
    (hstable : ∀ field ∈ meaning.fields, field.IsStable) : Stable meaning.decode := by
  intro value other hpermutes
  cases hpermutes with
  | members hperm =>
      simp only [Value.tree, Value.memberTrees_eq_map, decode]
      rw [gather_perm hcommute hmarks (hperm.map _)]
  | element hpermutes =>
      simp only [Value.tree, Value.trees_eq_map, decode, List.map_append, List.map_cons]
      rw [gatherList_congr hstable hpermutes]
  | member hpermutes =>
      simp only [Value.tree, Value.memberTrees_eq_map, decode, List.map_append, List.map_cons,
        gather_append, gather_cons, gatherMember_congr hstable hpermutes]

end Records

end Decommission.Json
