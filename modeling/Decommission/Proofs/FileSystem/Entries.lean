import Decommission.FileSystem.Remove

/-!
# Entries after a change

What a file system has at each place once an entry has been dropped or put.  Nothing else in this
theory looks into the list of entries, the trees apart.
-/

namespace Decommission

namespace Place

theorem isBelow_iff {place above : Place} :
    place.isBelow above = true ↔ ∃ name rest, place = above ++ name :: rest := by
  simp only [isBelow, Bool.and_eq_true, decide_eq_true_eq]
  constructor
  · rintro ⟨hlength, htake⟩
    have hsplit := List.take_append_drop above.length place
    rw [htake] at hsplit
    cases hdrop : place.drop above.length with
    | nil => simp [List.drop_eq_nil_iff] at hdrop; omega
    | cons name rest => exact ⟨name, rest, by rw [← hdrop, hsplit]⟩
  · rintro ⟨name, rest, rfl⟩
    simp

theorem ne_nil_of_isBelow {place above : Place} (hbelow : place.isBelow above = true) :
    place ≠ [] := by
  obtain ⟨name, rest, rfl⟩ := isBelow_iff.mp hbelow
  simp

/-- What lies below a place that lies below another lies below that one too. -/
theorem isBelow_trans {place middle above : Place} (hplace : place.isBelow middle = true)
    (hmiddle : middle.isBelow above = true) : place.isBelow above = true := by
  obtain ⟨name, rest, rfl⟩ := isBelow_iff.mp hplace
  obtain ⟨other, more, rfl⟩ := isBelow_iff.mp hmiddle
  exact isBelow_iff.mpr ⟨other, more ++ name :: rest, by simp⟩

end Place

namespace FileSystem

variable (files : FileSystem)

@[simp]
theorem entry?_nil : files.entry? [] = some (.directory files.root) := rfl

theorem entry?_of_ne_nil {place : Place} (hplace : place ≠ []) :
    files.entry? place = files.entries.lookup place := by
  unfold entry?
  rw [if_neg hplace]

theorem mem_entries_of_entry? {place : Place} {entry : Entry} (hplace : place ≠ [])
    (hentry : files.entry? place = some entry) : (place, entry) ∈ files.entries := by
  rw [entry?_of_ne_nil files hplace, List.lookup_eq_some_iff] at hentry
  obtain ⟨before, after, hentries, -⟩ := hentry
  simp [hentries]

theorem entry?_ne_none_of_mem {place : Place} {entry : Entry}
    (hmem : (place, entry) ∈ files.entries) : files.entry? place ≠ none := by
  by_cases hplace : place = []
  · simp [hplace]
  · rw [entry?_of_ne_nil files hplace, ne_eq, List.lookup_eq_none_iff]
    intro hnone
    simpa using hnone _ hmem

/-! ## Dropping -/

@[simp]
theorem root_drop (place : Place) : (files.drop place).root = files.root := rfl

/-- Of the entries at some places those are found. -/
theorem lookup_filter (keep : Place → Bool) (entries : List (Place × Entry)) (place : Place) :
    (entries.filter fun entry => keep entry.1).lookup place =
      if keep place then entries.lookup place else none := by
  induction entries with
  | nil => simp
  | cons head rest ih =>
      obtain ⟨key, entry⟩ := head
      rw [List.filter_cons]
      by_cases hkey : place = key
      · subst hkey
        cases hkeep : keep place <;> simp [hkeep, ih]
      · have hother : (place == key) = false := by simpa using hkey
        cases keep key <;> simp [List.lookup_cons, hother, ih]

theorem entry?_drop_of_ne {place other : Place} (hne : other ≠ place) :
    entry? (files.drop place) other = files.entry? other := by
  by_cases hother : other = []
  · simp [hother]
  · rw [entry?_of_ne_nil _ hother, entry?_of_ne_nil _ hother]
    have hlookup := lookup_filter (fun key => decide (key ≠ place)) files.entries other
    rwa [if_pos (by simpa using hne)] at hlookup

theorem entry?_drop_self {place : Place} (hplace : place ≠ []) :
    entry? (files.drop place) place = none := by
  rw [entry?_of_ne_nil _ hplace, List.lookup_eq_none_iff]
  intro entry hentry
  simp only [drop, ne_eq, List.mem_filter, decide_eq_true_eq] at hentry
  simpa using Ne.symm hentry.2

/-! ## Putting -/

theorem entry?_put_self {place : Place} (hplace : place ≠ []) (entry : Entry) :
    entry? (files.put place entry) place = some entry := by
  have hnone := files.entry?_drop_self hplace
  rw [entry?_of_ne_nil _ hplace] at hnone ⊢
  simp [put, List.lookup_append, hnone]

theorem entry?_put_of_ne {place other : Place} (hne : other ≠ place) (entry : Entry) :
    entry? (files.put place entry) other = files.entry? other := by
  by_cases hother : other = []
  · simp [hother, put, drop]
  · have hkey : (other == place) = false := by simpa using hne
    rw [← entry?_drop_of_ne files hne, entry?_of_ne_nil _ hother, entry?_of_ne_nil _ hother]
    simp [put, List.lookup_append, List.lookup_cons, hkey]

/-! ## What lies below a place -/

theorem mem_below {place above : Place} :
    place ∈ files.below above ↔
      (∃ entry, (place, entry) ∈ files.entries) ∧ place.isBelow above = true := by
  simp [below]

theorem isBelow_eq_false {place other : Place} {entry : Entry} (hbelow : files.below place = [])
    (hmem : (other, entry) ∈ files.entries) : other.isBelow place = false := by
  cases hisBelow : other.isBelow place with
  | false => rfl
  | true =>
      have hlisted := files.mem_below.mpr ⟨⟨entry, hmem⟩, hisBelow⟩
      rw [hbelow] at hlisted
      cases hlisted

theorem entry?_of_below_eq_nil {place : Place} (hbelow : files.below place = []) (name : Name) :
    files.entry? (place ++ [name]) = none := by
  cases hentry : files.entry? (place ++ [name]) with
  | none => rfl
  | some entry =>
      have hmem := files.mem_entries_of_entry? (by simp) hentry
      have hisBelow : Place.isBelow (place ++ [name]) place = true :=
        Place.isBelow_iff.mpr ⟨name, [], rfl⟩
      rw [files.isBelow_eq_false hbelow hmem] at hisBelow
      cases hisBelow

theorem ne_nil_of_mem_below {above : Place} : ∀ place ∈ files.below above, place ≠ [] :=
  fun _ hplace => Place.ne_nil_of_isBelow (files.mem_below.mp hplace).2

end FileSystem

end Decommission
