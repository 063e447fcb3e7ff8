import Decommission.Proofs.Json.Records
import Mathlib.Data.List.Pairwise

/-!
# The order of members

The fields of a record do not look at each other, so their members may stand in any order.  A field
then holds what its own member says, and nothing if there is none.
-/

namespace Decommission.Json

variable {σ α β : Type} {Doomed : σ → Prop}

namespace FieldMeaning

/-- Fields that can be read in either order. -/
structure Commutes (first second : FieldMeaning Doomed) : Prop where
  keeps_second : ∀ {record next tree}, first.member record tree = some next →
    second.field.isSet next = second.field.isSet record
  keeps_first : ∀ {record next tree}, second.member record tree = some next →
    first.field.isSet next = first.field.isSet record
  comm : ∀ record tree other, first.field.isSet record = false →
    second.field.isSet record = false →
      (first.member record tree).bind (second.member · other) =
        (second.member record other).bind (first.member · tree)

instance : Std.Symm (Commutes : FieldMeaning Doomed → FieldMeaning Doomed → Prop) where
  symm _ _ hcommutes :=
    ⟨hcommutes.keeps_first, hcommutes.keeps_second,
      fun record tree other hfirst hsecond =>
        (hcommutes.comm record other tree hsecond hfirst).symm⟩

/-- A field that counts as set once it has been read. -/
def Marks (meaning : FieldMeaning Doomed) : Prop :=
  ∀ record next tree, meaning.member record tree = some next → meaning.field.isSet next = true

section Plain

variable {name other : String} {get : σ → Option α} {set : σ → α → σ}
variable {read : Cursor → Except ReadError (α × Cursor)} {decode : Tree → Option α}
variable {hreads : Reads read decode}

theorem marks_plain (hset : ∀ record value, get (set record value) = some value) :
    (plain name get set read decode hreads).Marks := by
  intro record next tree hnext
  obtain ⟨value, -, rfl⟩ := Option.map_eq_some_iff.mp hnext
  show (get (set record value)).isSome = true
  rw [hset]
  rfl

theorem commutes_plain {get' : σ → Option β} {set' : σ → β → σ}
    {read' : Cursor → Except ReadError (β × Cursor)} {decode' : Tree → Option β}
    {hreads' : Reads read' decode'} (hget : ∀ record value, get' (set record value) = get' record)
    (hget' : ∀ record value, get (set' record value) = get record)
    (hset : ∀ record value value',
      set' (set record value) value' = set (set' record value') value) :
    (plain name get set read decode hreads).Commutes
      (plain other get' set' read' decode' hreads') where
  keeps_second := by
    intro record next tree hnext
    obtain ⟨value, -, rfl⟩ := Option.map_eq_some_iff.mp hnext
    exact congrArg Option.isSome (hget record value)
  keeps_first := by
    intro record next tree hnext
    obtain ⟨value, -, rfl⟩ := Option.map_eq_some_iff.mp hnext
    exact congrArg Option.isSome (hget' record value)
  comm record tree tree' _ _ := by
    show ((decode tree).map (set record)).bind (fun next => (decode' tree').map (set' next)) =
      ((decode' tree').map (set' record)).bind (fun next => (decode tree).map (set next))
    cases decode tree with
    | none => cases decode' tree' <;> rfl
    | some value =>
        cases decode' tree' with
        | none => rfl
        | some value' => exact congrArg some (hset record value value')

end Plain

end FieldMeaning

/-! ## Any order -/

section Order

variable {fields : List (FieldMeaning Doomed)} {record : σ}
variable (hcommute : fields.Pairwise FieldMeaning.Commutes)
  (hmarks : ∀ meaning ∈ fields, meaning.Marks)

include hcommute in
theorem commutes_of_name_ne {first second : FieldMeaning Doomed} (hfirst : first ∈ fields)
    (hsecond : second ∈ fields) (hname : first.field.name ≠ second.field.name) :
    first.Commutes second := by
  refine hcommute.forall hfirst hsecond ?_
  rintro rfl
  exact hname rfl

theorem name_of_find? {key : String} {meaning : FieldMeaning Doomed}
    (hfind : fields.find? (fun meaning => meaning.field.name = key) = some meaning) :
    meaning ∈ fields ∧ meaning.field.name = key :=
  ⟨List.mem_of_find?_eq_some hfind, by simpa using List.find?_some hfind⟩

/-- A known member, behind a look at what is set. -/
theorem gatherMember_of_find? {key : String} {tree : Tree} {meaning : FieldMeaning Doomed}
    (hfind : fields.find? (fun meaning => meaning.field.name = key) = some meaning) :
    gatherMember fields record (some key, tree) =
      if meaning.field.isSet record then none else meaning.member record tree := by
  rw [gatherMember, hfind]

/-- A field does not change whether another one is set. -/
theorem bind_gatherMember {first second : FieldMeaning Doomed} (hcommutes : first.Commutes second)
    {key : String} (hfind : fields.find? (fun meaning => meaning.field.name = key) = some second)
    (tree other : Tree) :
    (first.member record tree).bind (gatherMember fields · (some key, other)) =
      if second.field.isSet record then none
      else (first.member record tree).bind (second.member · other) := by
  cases hnext : first.member record tree with
  | none => simp
  | some next =>
      rw [Option.bind_some, gatherMember_of_find? hfind, hcommutes.keeps_second hnext]
      rfl

include hmarks in
/-- A known member cannot stand twice. -/
theorem gatherMember_twice {key : String} {tree other : Tree} {meaning : FieldMeaning Doomed}
    (hfind : fields.find? (fun meaning => meaning.field.name = key) = some meaning) :
    (gatherMember fields record (some key, tree)).bind
      (gatherMember fields · (some key, other)) = none := by
  rw [gatherMember_of_find? hfind]
  split
  · rfl
  · cases hnext : meaning.member record tree with
    | none => rfl
    | some next =>
        rw [Option.bind_some, gatherMember_of_find? hfind,
          if_pos (hmarks meaning (name_of_find? hfind).1 _ _ _ hnext)]

include hcommute hmarks in
theorem gatherMember_comm (record : σ) (first second : Option String × Tree) :
    (gatherMember fields record first).bind (gatherMember fields · second) =
      (gatherMember fields record second).bind (gatherMember fields · first) := by
  obtain ⟨_ | key, tree⟩ := first
  · simp [gatherMember]
  obtain ⟨_ | other, tree'⟩ := second
  · simp [gatherMember]
  cases hfirst : fields.find? fun meaning => meaning.field.name = key with
  | none => simp [gatherMember, hfirst]
  | some meaning =>
  cases hsecond : fields.find? fun meaning => meaning.field.name = other with
  | none => simp [gatherMember, hsecond]
  | some meaning' =>
  by_cases hkey : key = other
  · subst hkey
    rw [gatherMember_twice hmarks hfirst, gatherMember_twice hmarks hfirst]
  · obtain ⟨hmem, hname⟩ := name_of_find? hfirst
    obtain ⟨hmem', hname'⟩ := name_of_find? hsecond
    have hcommutes := commutes_of_name_ne hcommute hmem hmem' (by rwa [hname, hname'])
    rw [gatherMember_of_find? hfirst, gatherMember_of_find? hsecond]
    by_cases hset : meaning.field.isSet record = true
    · rw [if_pos hset, Option.bind_none]
      split
      · rfl
      · rw [bind_gatherMember (symm hcommutes) hfirst, if_pos hset]
    rw [if_neg hset]
    by_cases hset' : meaning'.field.isSet record = true
    · rw [if_pos hset', Option.bind_none, bind_gatherMember hcommutes hsecond, if_pos hset']
    · rw [if_neg hset', bind_gatherMember hcommutes hsecond, if_neg hset',
        bind_gatherMember (symm hcommutes) hfirst, if_neg hset]
      exact hcommutes.comm record tree tree' (Bool.eq_false_iff.mpr hset)
        (Bool.eq_false_iff.mpr hset')

include hcommute hmarks in
/-- Members can stand in any order. -/
theorem gather_perm {members others : List (Option String × Tree)} (hperm : members.Perm others) :
    gather fields record members = gather fields record others := by
  induction hperm generalizing record with
  | nil => rfl
  | cons member hperm ih =>
      rw [gather_cons, gather_cons]
      exact congrArg _ (funext fun next => ih)
  | swap first second members =>
      simp only [gather_cons]
      rw [← Option.bind_assoc, ← Option.bind_assoc, gatherMember_comm hcommute hmarks]
  | trans hfirst hsecond ihfirst ihsecond => exact ihfirst.trans ihsecond

end Order

/-! ## The member of a field -/

section Given

variable {fields : List (FieldMeaning Doomed)} {record full : σ}
variable {members : List (Option String × Tree)} {meaning : FieldMeaning Doomed}

/-- A field without a member is left as it was. -/
theorem isSet_of_absent (hcommute : fields.Pairwise FieldMeaning.Commutes) (hmem : meaning ∈ fields)
    (habsent : ∀ tree, (some meaning.field.name, tree) ∉ members)
    (hgather : gather fields record members = some full) :
    meaning.field.isSet full = meaning.field.isSet record := by
  induction members generalizing record with
  | nil =>
      cases hgather
      rfl
  | cons member members ih =>
      rw [gather_cons] at hgather
      obtain ⟨next, hnext, hgather⟩ := Option.bind_eq_some_iff.mp hgather
      rw [ih (fun tree hmember => habsent tree (List.mem_cons_of_mem _ hmember)) hgather]
      obtain ⟨_ | key, tree⟩ := member
      · cases hnext
      · unfold gatherMember at hnext
        dsimp only at hnext
        split at hnext
        · cases hnext
          rfl
        · rename_i other hfind
          obtain ⟨hmem', rfl⟩ := name_of_find? hfind
          split at hnext
          · cases hnext
          · refine (commutes_of_name_ne hcommute hmem' hmem ?_).keeps_second hnext
            intro hname
            exact habsent tree (hname ▸ List.mem_cons_self)

/-- A field holds what its member says. -/
theorem exists_of_present (hcommute : fields.Pairwise FieldMeaning.Commutes)
    (hmarks : ∀ meaning ∈ fields, meaning.Marks) {key : String} {tree : Tree}
    (hfind : fields.find? (fun meaning => meaning.field.name = key) = some meaning)
    (hmember : (some key, tree) ∈ members) (hgather : gather fields record members = some full) :
    ∃ before, meaning.member before tree = some full := by
  obtain ⟨front, back, rfl⟩ := List.append_of_mem hmember
  have hperm : (front ++ (some key, tree) :: back).Perm ((front ++ back) ++ [(some key, tree)]) :=
    List.perm_middle.trans (List.perm_append_singleton _ _).symm
  rw [gather_perm hcommute hmarks hperm, gather_append] at hgather
  obtain ⟨before, -, hlast⟩ := Option.bind_eq_some_iff.mp hgather
  rw [gather_cons, gatherMember_of_find? hfind] at hlast
  obtain ⟨next, hnext, hdone⟩ := Option.bind_eq_some_iff.mp hlast
  cases hdone
  split at hnext
  · cases hnext
  · exact ⟨before, hnext⟩

/-- Members whose keys are text and stand only once are gathered, if the known ones have values of
their kind. -/
theorem exists_gather (hcommute : fields.Pairwise FieldMeaning.Commutes)
    (hkeys : ∀ member ∈ members, member.1 ≠ none)
    (hdistinct : members.Pairwise fun first second => first.1 ≠ second.1)
    (hvalues : ∀ meaning ∈ fields, ∀ tree, (some meaning.field.name, tree) ∈ members →
      meaning.field.isSet record = false ∧ ∀ record,
        ∃ next, meaning.member record tree = some next) :
    ∃ full, gather fields record members = some full := by
  induction members generalizing record with
  | nil => exact ⟨record, rfl⟩
  | cons member members ih =>
      obtain ⟨name, tree⟩ := member
      obtain ⟨hother, hothers⟩ := List.pairwise_cons.mp hdistinct
      have hkeys' := fun member hmem => hkeys member (List.mem_cons_of_mem _ hmem)
      rw [gather_cons]
      cases name with
      | none => exact absurd rfl (hkeys _ List.mem_cons_self)
      | some key =>
      cases hfind : fields.find? fun meaning => meaning.field.name = key with
      | none =>
          rw [show gatherMember fields record (some key, tree) = some record by
            simp only [gatherMember, hfind]]
          exact ih hkeys' hothers fun meaning hmem tree hmember =>
            hvalues meaning hmem tree (List.mem_cons_of_mem _ hmember)
      | some meaning =>
          obtain ⟨hmem, rfl⟩ := name_of_find? hfind
          obtain ⟨hunset, hmember⟩ := hvalues meaning hmem tree List.mem_cons_self
          obtain ⟨next, hnext⟩ := hmember record
          rw [gatherMember_of_find? hfind, hunset, hnext]
          refine ih hkeys' hothers fun meaning' hmem' tree' hmember' => ?_
          obtain ⟨hunset', hmember⟩ := hvalues meaning' hmem' tree'
            (List.mem_cons_of_mem _ hmember')
          refine ⟨?_, hmember⟩
          have hname : meaning.field.name ≠ meaning'.field.name :=
            fun hname => hother _ hmember' (congrArg some hname)
          rw [(commutes_of_name_ne hcommute hmem hmem' hname).keeps_second hnext, hunset']

/-- What members say under a name. -/
inductive Gives (members : List (Option String × Tree)) (name : String) (decode : Tree → Option α) :
    Option α → Prop where
  | absent (habsent : ∀ tree, (some name, tree) ∉ members) : Gives members name decode none
  | present {tree value} (hmember : (some name, tree) ∈ members)
      (hdecode : decode tree = some value) : Gives members name decode (some value)

theorem gives_of_gather {fields : List (FieldMeaning (fun _ : σ => False))}
    (hcommute : fields.Pairwise FieldMeaning.Commutes) (hmarks : ∀ meaning ∈ fields, meaning.Marks)
    {name : String} {get : σ → Option α} {set : σ → α → σ}
    {read : Cursor → Except ReadError (α × Cursor)} {decode : Tree → Option α}
    {hreads : Reads read decode}
    (hfind : fields.find? (fun meaning => meaning.field.name = name) =
      some (.plain name get set read decode hreads))
    (hset : ∀ record value, get (set record value) = some value) (hblank : get record = none)
    (hgather : gather fields record members = some full) :
    Gives members name decode (get full) := by
  by_cases hpresent : ∃ tree, (some name, tree) ∈ members
  · obtain ⟨tree, hmember⟩ := hpresent
    obtain ⟨before, hfull⟩ := exists_of_present hcommute hmarks hfind hmember hgather
    obtain ⟨value, hdecode, rfl⟩ := Option.map_eq_some_iff.mp hfull
    rw [hset]
    exact .present hmember hdecode
  · have habsent : ∀ tree, (some name, tree) ∉ members := not_exists.mp hpresent
    have hisSet := isSet_of_absent hcommute (name_of_find? hfind).1 habsent hgather
    have hnone : (get full).isSome = (get record).isSome := hisSet
    rw [hblank, Option.isSome_none, Option.isSome_eq_false_iff, Option.isNone_iff_eq_none] at hnone
    rw [hnone]
    exact .absent habsent

end Given

end Decommission.Json
