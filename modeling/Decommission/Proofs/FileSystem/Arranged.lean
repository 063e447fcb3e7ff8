import Decommission.FileSystem.Arrange
import Decommission.Proofs.FileSystem.Age

/-!
# Arranged file systems

However entries are made, moved and removed, beginning with an empty file system, there is a tree in
the end, with every directory older than what lies below it.  So what is said of such file systems is
said of all that there can be.
-/

namespace Decommission

namespace Place

/-- A place at another one or below it begins with the names of that one. -/
theorem prefix_iff {place above : Place} :
    above <+: place ↔ place = above ∨ place.isBelow above = true := by
  rw [isBelow_iff]
  constructor
  · rintro ⟨rest, rfl⟩
    cases rest with
    | nil => exact .inl (List.append_nil _)
    | cons name rest => exact .inr ⟨name, rest, rfl⟩
  · rintro (rfl | ⟨name, rest, rfl⟩)
    · exact List.prefix_rfl
    · exact List.prefix_append _ _

/-- The entry at the place remains there when another one is moved. -/
def stays (source destination place : Place) : Bool :=
  place ≠ destination ∧ ¬source <+: place

/-- The entry at the place is moved. -/
def moves (source destination place : Place) : Bool :=
  place ≠ destination ∧ source <+: place

/-- Where it is moved to. -/
def goal (source destination place : Place) : Place :=
  destination ++ place.drop source.length

section Move

variable {source destination place : Place}

theorem stays_iff :
    stays source destination place = true ↔ place ≠ destination ∧ ¬source <+: place :=
  decide_eq_true_iff

theorem moves_iff :
    moves source destination place = true ↔ place ≠ destination ∧ source <+: place :=
  decide_eq_true_iff

@[simp]
theorem goal_append (rest : Place) :
    goal source destination (source ++ rest) = destination ++ rest := by
  rw [goal, List.drop_left]

end Move

end Place

namespace FileSystem

variable {files : FileSystem}

/-! ## Moving -/

/-- Entries that go to places of their own are found there as what they have become. -/
theorem lookup_map (goal : Place → Place) (become : Place → Entry → Entry)
    {entries : List (Place × Entry)} {place : Place}
    (hgoal : ∀ entry ∈ entries, goal entry.1 = goal place → entry.1 = place) :
    (entries.map fun entry => (goal entry.1, become entry.1 entry.2)).lookup (goal place) =
      (entries.lookup place).map (become place) := by
  induction entries with
  | nil => rfl
  | cons head rest ih =>
      obtain ⟨key, entry⟩ := head
      have hrest := ih fun other hother => hgoal other (List.mem_cons_of_mem _ hother)
      rw [List.map_cons, List.lookup_cons, List.lookup_cons, hrest]
      by_cases hkey : key = place
      · simp [hkey]
      · have hne : goal key ≠ goal place := fun h => hkey (hgoal _ List.mem_cons_self h)
        have hother : (place == key) = false := by simpa using Ne.symm hkey
        have hother' : (goal place == goal key) = false := by simpa using Ne.symm hne
        rw [hother, hother']

section Move

variable {source destination place : Place}

/-- What stays is followed by what moves. -/
theorem entries_move (files : FileSystem) (source destination : Place) :
    (files.move source destination).entries =
      (files.entries.filter fun entry => Place.stays source destination entry.1) ++
      (files.entries.filter fun entry => Place.moves source destination entry.1).map fun entry =>
        (Place.goal source destination entry.1, entry.2) := by
  have hbelow (entry : Place × Entry) :
      entry.1 = source ∨ entry.1.isBelow source = true ↔ source <+: entry.1 :=
    Place.prefix_iff.symm
  rw [move, List.partition_eq_filter_filter]
  simp [List.filter_filter, hbelow, Function.comp_def, Bool.and_comm, Place.stays, Place.moves,
    Place.goal]

/-- At the destination and below it there is what was at the source and below it. -/
theorem entry?_move (hsource : source ≠ []) (hdestination : destination ≠ [])
    (hapart : ¬source <+: destination) (hempty : files.below destination = []) (rest : Place) :
    entry? (files.move source destination) (destination ++ rest) =
      files.entry? (source ++ rest) := by
  have hstays : (files.entries.filter fun entry =>
      Place.stays source destination entry.1).lookup (destination ++ rest) = none := by
    rw [List.lookup_eq_none_iff]
    rintro ⟨key, entry⟩ hentry
    obtain ⟨hmem, hkey⟩ := List.mem_filter.mp hentry
    rw [bne_iff_ne]
    rintro rfl
    rcases Place.prefix_iff.mp (List.prefix_append destination rest) with hsame | hbelow
    · exact (Place.stays_iff.mp hkey).1 hsame
    · rw [files.isBelow_eq_false hempty hmem] at hbelow
      cases hbelow
  have hmoves : Place.moves source destination (source ++ rest) = true := by
    refine Place.moves_iff.mpr ⟨?_, List.prefix_append _ _⟩
    rintro rfl
    exact hapart (List.prefix_append _ _)
  have hown : ∀ entry ∈ files.entries.filter fun entry => Place.moves source destination entry.1,
      Place.goal source destination entry.1 = Place.goal source destination (source ++ rest) →
        entry.1 = source ++ rest := by
    rintro ⟨key, entry⟩ hentry hsame
    obtain ⟨more, rfl⟩ := (Place.moves_iff.mp (List.mem_filter.mp hentry).2).2
    simpa using hsame
  have hmapped := lookup_map (Place.goal source destination) (fun _ => id) hown
  rw [Place.goal_append, Option.map_id_fun, id_eq, lookup_filter, if_pos hmoves] at hmapped
  rw [entry?_of_ne_nil _ (by simp [hdestination]), entry?_of_ne_nil _ (by simp [hsource]),
    entries_move, List.lookup_append, hstays, Option.none_or]
  exact hmapped

/-- Elsewhere there is what was there, and nothing at the source or below it. -/
theorem entry?_move_of_not_prefix (hsource : source ≠ []) (hplace : ¬destination <+: place) :
    entry? (files.move source destination) place =
      if source <+: place then none else files.entry? place := by
  by_cases hroot : place = []
  · subst hroot
    simp [hsource, move]
  have hmoves : ((files.entries.filter fun entry => Place.moves source destination entry.1).map
      fun entry => (Place.goal source destination entry.1, entry.2)).lookup place = none := by
    rw [List.lookup_eq_none_iff]
    rintro ⟨key, entry⟩ hentry
    obtain ⟨before, -, hafter⟩ := List.mem_map.mp hentry
    obtain ⟨rfl, -⟩ := Prod.mk.inj hafter
    rw [bne_iff_ne]
    rintro rfl
    exact hplace (List.prefix_append _ _)
  have hne : place ≠ destination := by
    rintro rfl
    exact hplace List.prefix_rfl
  rw [entry?_of_ne_nil _ hroot, entry?_of_ne_nil _ hroot, entries_move, List.lookup_append,
    hmoves, Option.or_none, lookup_filter]
  simp [Place.stays, hne]

end Move

theorem entry?_setGuard (top : Place) (guard : Option Guard) {place : Place} (hplace : place ≠ []) :
    entry?
      { files with entries := files.entries.map fun (other, entry) =>
          (other, if other = top then .directory guard else entry) } place =
      (files.entry? place).map fun entry => if place = top then .directory guard else entry := by
  rw [entry?_of_ne_nil _ hplace, entry?_of_ne_nil _ hplace]
  exact lookup_map id (fun other entry => if other = top then .directory guard else entry)
    fun _ _ hsame => hsame

theorem named?_eq_some {path : Path} {place : Place} (hnamed : files.named? path = some place) :
    ∃ parent name guard, place = parent ++ [name] ∧
      files.entry? parent = some (.directory guard) := by
  unfold named? at hnamed
  split at hnamed
  · rename_i parent name _ hparent _
    split at hnamed
    · cases hnamed
    · cases hnamed
      obtain ⟨guard, hdirectory⟩ := exists_directory_of_parentOf hparent
      exact ⟨parent, name, guard, rfl, hdirectory⟩
  · cases hnamed

/-- Nothing is in the way of what can be moved. -/
theorem below_eq_nil_of_canMove (htree : files.IsTree) {source destination : Place} {entry : Entry}
    (hcan : files.canMove source destination entry = true) : files.below destination = [] := by
  cases hthere : files.entry? destination with
  | none => exact htree.below_eq_nil (by simp [hthere])
  | some other => simp_all [canMove]

namespace IsGrown

theorem move (hgrown : files.IsGrown) {source parent : Place} {name : Name} {guard : Option Guard}
    (hsource : source ≠ []) (hparent : files.entry? parent = some (.directory guard))
    (hapart : ¬source <+: parent ++ [name]) (hempty : files.below (parent ++ [name]) = []) :
    (files.move source (parent ++ [name])).IsGrown := by
  have hdestination : parent ++ [name] ≠ [] := by simp
  have hinside := entry?_move hsource hdestination hapart hempty
  have houtside {place : Place} (hplace : ¬parent ++ [name] <+: place) :
      entry? (files.move source (parent ++ [name])) place =
        if source <+: place then none else files.entry? place :=
    entry?_move_of_not_prefix hsource hplace
  constructor
  case isTree =>
    intro place last entry hentry
    by_cases hbelow : parent ++ [name] <+: place
    · obtain ⟨rest, rfl⟩ := hbelow
      rw [List.append_assoc, hinside, ← List.append_assoc] at hentry
      rw [hinside]
      exact hgrown.isTree _ last entry hentry
    · rw [houtside hbelow]
      by_cases hsame : place ++ [last] = parent ++ [name]
      · obtain ⟨rfl, -⟩ := List.append_inj' hsame rfl
        exact ⟨guard, by rw [if_neg fun h => hapart (h.trans (List.prefix_append _ _)), hparent]⟩
      · rw [houtside (by simp [List.prefix_concat_iff, Ne.symm hsame, hbelow])] at hentry
        split at hentry
        · cases hentry
        · rename_i hkept
          obtain ⟨guard, hdirectory⟩ := hgrown.isTree place last entry hentry
          exact ⟨guard, by rw [if_neg fun h => hkept (h.trans (List.prefix_append _ _)), hdirectory]⟩
  case older =>
    rw [entries_move, List.pairwise_append]
    refine ⟨hgrown.older.filter _, ?_, ?_⟩
    · rw [List.pairwise_map]
      refine (hgrown.older.filter _).imp_of_mem fun {entry younger} hentry hyounger holder => ?_
      obtain ⟨rest, hrest⟩ := (Place.moves_iff.mp (List.mem_filter.mp hentry).2).2
      obtain ⟨more, hmore⟩ := (Place.moves_iff.mp (List.mem_filter.mp hyounger).2).2
      rw [← hrest, ← hmore, Place.isBelow_append] at holder
      rw [← hrest, ← hmore, Place.goal_append, Place.goal_append, Place.isBelow_append, holder]
    · rintro ⟨key, entry⟩ hentry younger hyounger
      obtain ⟨moved, -, rfl⟩ := List.mem_map.mp hyounger
      obtain ⟨hmem, hkey⟩ := List.mem_filter.mp hentry
      by_contra hisBelow
      -- What stays below the destination would have been in its way.
      obtain ⟨first, rest, hbelow⟩ := Place.isBelow_iff.mp (by simpa using hisBelow)
      have hprefix : parent ++ [name] <+: key :=
        ⟨moved.1.drop source.length ++ first :: rest, by simp [hbelow, Place.goal]⟩
      have hinWay := (Place.prefix_iff.mp hprefix).resolve_left (Place.stays_iff.mp hkey).1
      rw [files.isBelow_eq_false hempty hmem] at hinWay
      cases hinWay

/-! ## Every arrangement -/

theorem create (hgrown : files.IsGrown) (path : Path) (entry : Entry) :
    (files.create path entry).IsGrown := by
  unfold FileSystem.create
  split
  · rename_i hresolve
    obtain ⟨⟨guard, hparent⟩, hnone⟩ := holds_of_resolve hresolve
    exact hgrown.put hparent hnone entry
  · exact hgrown

theorem createEach (hgrown : files.IsGrown) (paths : List Path) :
    (paths.foldl (fun files path => files.create path (.directory none)) files).IsGrown := by
  induction paths generalizing files with
  | nil => exact hgrown
  | cons path rest ih => exact ih (hgrown.create path _)

theorem makeParents (hgrown : files.IsGrown) (path : Path) : (files.makeParents path).IsGrown :=
  hgrown.createEach _

theorem write (hgrown : files.IsGrown) (path : Path) (content : Bytes) :
    (files.write path content).IsGrown := by
  unfold FileSystem.write
  split
  · rename_i hopen
    exact ((hgrown.makeParents path).openAppend hopen).withObjects _
  · exact hgrown

theorem makeAlias (hgrown : files.IsGrown) (path existing : Path) :
    (files.makeAlias path existing).IsGrown := by
  unfold FileSystem.makeAlias
  split
  · exact hgrown
  · exact hgrown
  · exact (hgrown.makeParents path).create path _

theorem discard (hgrown : files.IsGrown) (path : Path) : (files.discard path).IsGrown := by
  unfold FileSystem.discard
  split
  · exact hgrown.removeTree path
  · cases hremove : files.removeFile path with
    | error error => exact hgrown
    | ok after => exact hgrown.removeFile hremove
  · exact hgrown

theorem rename (hgrown : files.IsGrown) (path target : Path) :
    (files.rename path target).IsGrown := by
  unfold FileSystem.rename
  split
  · rename_i source destination hsource hdestination
    split
    · exact hgrown
    · dsimp only
      split_ifs with hsame hcan
      · exact hgrown
      · obtain ⟨parent, name, guard, rfl, -⟩ := named?_eq_some hsource
        obtain ⟨above, last, guard, rfl, habove⟩ := named?_eq_some hdestination
        have hempty := below_eq_nil_of_canMove hgrown.isTree hcan
        have hapart : ¬parent ++ [name] <+: above ++ [last] := by
          intro hprefix
          rcases Place.prefix_iff.mp hprefix with hequal | hbelow
          · exact hsame (.inl hequal.symm)
          · simp [canMove, hbelow] at hcan
        exact hgrown.move (by simp) habove hapart hempty
      · exact hgrown
  · exact hgrown

/-- What may be done with an entry is no matter of where it is. -/
theorem setAccess (hgrown : files.IsGrown) (path : Path) (access : Access) :
    (files.setAccess path access).IsGrown := by
  unfold FileSystem.setAccess
  split
  · exact hgrown.withObjects _
  · refine ⟨fun place name entry hentry => ?_, List.pairwise_map.mpr hgrown.older⟩
    rw [entry?_setGuard _ _ (by simp)] at hentry
    obtain ⟨before, hbefore, -⟩ := Option.map_eq_some_iff.mp hentry
    obtain ⟨guard, hdirectory⟩ := hgrown.isTree place name before hbefore
    by_cases hplace : place = []
    · subst hplace
      exact ⟨_, rfl⟩
    · rw [entry?_setGuard _ _ hplace, hdirectory, Option.map_some]
      split <;> exact ⟨_, rfl⟩
  · exact hgrown

end IsGrown

end FileSystem

open FileSystem

/-- What others can do to a file system. -/
inductive Arrangement where
  | makeDirectory (path : Path)
  | write (path : Path) (content : Bytes)
  | makeLink (path target : Path)
  | makeSocket (path : Path)
  | makeAlias (path existing : Path)
  | discard (path : Path)
  | rename (path target : Path)
  | setAccess (path : Path) (access : Access)

namespace Arrangement

def apply (files : FileSystem) : Arrangement → FileSystem
  | makeDirectory path => files.makeDirectory path
  | write path content => files.write path content
  | makeLink path target => files.makeLink path target
  | makeSocket path => files.makeSocket path
  | makeAlias path existing => files.makeAlias path existing
  | discard path => files.discard path
  | rename path target => files.rename path target
  | setAccess path access => files.setAccess path access

theorem isGrown_apply {files : FileSystem} (hgrown : files.IsGrown) (arrangement : Arrangement) :
    (arrangement.apply files).IsGrown := by
  cases arrangement with
  | makeDirectory path => exact hgrown.createEach _
  | write path content => exact hgrown.write path content
  | makeLink path target | makeSocket path =>
      exact ((hgrown.makeParents path).withObjects _).create path _
  | makeAlias path existing => exact hgrown.makeAlias path existing
  | discard path => exact hgrown.discard path
  | rename path target => exact hgrown.rename path target
  | setAccess path access => exact hgrown.setAccess path access

theorem isGrown_foldl {files : FileSystem} (hgrown : files.IsGrown)
    (arrangements : List Arrangement) : (arrangements.foldl apply files).IsGrown := by
  induction arrangements generalizing files with
  | nil => exact hgrown
  | cons arrangement rest ih => exact ih (isGrown_apply hgrown arrangement)

/-- Whatever others make, move and remove, it has grown to a tree in the end. -/
theorem isGrown_of_arrangements (arrangements : List Arrangement) :
    (arrangements.foldl apply FileSystem.empty).IsGrown :=
  isGrown_foldl IsGrown.empty arrangements

end Arrangement

end Decommission
