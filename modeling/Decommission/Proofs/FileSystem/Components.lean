import Decommission.Path
import Mathlib.Data.List.Basic

/-!
# The components of a path

A path is cut at its slashes.  What stands behind its last name are slashes and dots; without them a
path ends in a name or has none at all.
-/

namespace Decommission.Path

theorem parts_ne_nil (bytes : Bytes) : parts bytes ≠ [] := by
  induction bytes with
  | nil => simp [parts]
  | cons byte rest ih =>
      unfold parts
      split
      · simp
      · cases hrest : parts rest with
        | nil => exact absurd hrest ih
        | cons head tail => simp

theorem eq_slash_of_parts {bytes : Bytes} (hparts : ∀ part ∈ parts bytes, part = []) :
    ∀ byte ∈ bytes, byte = slash := by
  induction bytes with
  | nil => simp
  | cons byte rest ih =>
      unfold parts at hparts
      split at hparts
      · rename_i hslash
        have hrest := ih fun part hpart => hparts part (by simp [hpart])
        exact List.forall_mem_cons.mpr ⟨hslash, hrest⟩
      · cases hrest : parts rest with
        | nil => exact absurd hrest (parts_ne_nil rest)
        | cons head tail =>
            rw [hrest] at hparts
            have hhead := hparts (byte :: head) (by simp)
            cases hhead

/-- A path that is not empty has a walk take at least one step. -/
theorem steps_ne_nil {path : Path} (hbytes : path.bytes ≠ []) : path.steps ≠ [] := by
  intro hsteps
  unfold steps at hsteps
  split at hsteps
  · simp at hsteps
  · rename_i hending
    have hparts : ∀ part ∈ parts path.bytes, part = [] := by
      simpa [components] using hsteps
    have hslash := eq_slash_of_parts hparts _ (List.getLast_mem hbytes)
    apply hending
    rw [endsWithSlash, List.getLast?_eq_some_getLast hbytes, hslash]
    rfl

/-- A path is cut at a slash. -/
theorem parts_append_slash (front rest : Bytes) :
    parts (front ++ slash :: rest) = parts front ++ parts rest := by
  induction front with
  | nil => rfl
  | cons byte front ih =>
      rw [List.cons_append, parts, parts, ih]
      split
      · rfl
      · obtain ⟨head, tail, hparts⟩ := List.exists_cons_of_ne_nil (parts_ne_nil front)
        rw [hparts]
        rfl

theorem parts_of_not_mem {name : Bytes} (hname : slash ∉ name) : parts name = [name] := by
  induction name with
  | nil => rfl
  | cons byte rest ih =>
      rw [List.mem_cons, not_or] at hname
      rw [parts, if_neg (Ne.symm hname.1), ih hname.2]
      rfl

theorem exists_last_slash {bytes : Bytes} (hslash : slash ∈ bytes) :
    ∃ front last, bytes = front ++ slash :: last ∧ slash ∉ last := by
  obtain ⟨last, front, hreverse, hlast⟩ :=
    List.eq_append_cons_of_mem (List.mem_reverse.mpr hslash)
  refine ⟨front.reverse, last.reverse, ?_, by rwa [List.mem_reverse]⟩
  rw [← List.reverse_reverse bytes, hreverse]
  simp

/-! ## Names -/

/-- Slashes, and components that are a dot, behind something. -/
inductive Closing : Bytes → Prop where
  | nil : Closing []
  | slash {rest} (hrest : Closing rest) : Closing (slash :: rest)
  | dot {rest} (hrest : Closing rest) : Closing (slash :: (Name.dot ++ rest))

/-- A path without a name: slashes and components that are a dot, or nothing at all. -/
def IsBare (path : Path) : Prop :=
  Closing path.bytes ∨ ∃ closing, path.bytes = Name.dot ++ closing ∧ Closing closing

/-- Where a directory is spelled out in front of a name. -/
def Leads (front : Bytes) : Prop := front = [] ∨ front.getLast? = some slash

/-- The last component of a path, closing slashes and dots left aside. -/
structure EndsIn (path : Path) (name : Name) : Prop where
  ne_nil : name ≠ []
  slash_not_mem : slash ∉ name
  ne_dot : name ≠ Name.dot
  spelled : ∃ front closing, path.bytes = front ++ name ++ closing ∧ Leads front ∧ Closing closing

/-- The components of a path that are more than a dot. -/
def names (bytes : Bytes) : List Name :=
  (components ⟨bytes⟩).filter (· ≠ Name.dot)

variable {path : Path} {name : Name} {bytes closing front : Bytes}

theorem names_append_slash (front rest : Bytes) :
    names (front ++ slash :: rest) = names front ++ names rest := by
  simp only [names, components, parts_append_slash, List.filter_append]

theorem names_of_part {part : Bytes} (hslash : slash ∉ part) (hname : part = [] ∨ part = Name.dot) :
    names part = [] := by
  rw [names, components, parts_of_not_mem hslash]
  rcases hname with rfl | rfl <;> rfl

theorem names_of_name (hslash : slash ∉ name) (hne : name ≠ []) (hdot : name ≠ Name.dot) :
    names name = [name] := by
  rw [names, components, parts_of_not_mem hslash]
  simp [hne, hdot]

/-- What closes a path adds no name to it. -/
theorem names_append_closing (hclosing : Closing closing) (bytes : Bytes) :
    names (bytes ++ closing) = names bytes := by
  induction hclosing generalizing bytes with
  | nil => rw [List.append_nil]
  | slash hrest ih =>
      have hnone := ih []
      rw [List.nil_append] at hnone
      rw [names_append_slash, hnone, names_of_part (by simp) (Or.inl rfl), List.append_nil]
  | dot hrest ih =>
      rw [names_append_slash, ih, names_of_part (by decide) (Or.inr rfl), List.append_nil]

theorem IsBare.names_eq_nil (hbare : path.IsBare) : names path.bytes = [] := by
  rcases hbare with hclosing | ⟨closing, hbytes, hclosing⟩
  · rw [← List.nil_append path.bytes, names_append_closing hclosing]
    rfl
  · rw [hbytes, names_append_closing hclosing]
    rfl

theorem EndsIn.getLast?_names (hends : path.EndsIn name) :
    (names path.bytes).getLast? = some name := by
  obtain ⟨front, closing, hbytes, hfront, hclosing⟩ := hends.spelled
  have hname := names_of_name hends.slash_not_mem hends.ne_nil hends.ne_dot
  rw [hbytes, names_append_closing hclosing]
  rcases hfront with rfl | hfront
  · rw [List.nil_append, hname]
    rfl
  · obtain ⟨directory, rfl⟩ := List.getLast?_eq_some_iff.mp hfront
    rw [List.append_assoc, List.singleton_append, names_append_slash, hname,
      List.getLast?_concat]

/-! ## Longer paths -/

theorem Closing.append {more : Bytes} (hclosing : Closing closing) (hmore : Closing more) :
    Closing (closing ++ more) := by
  induction hclosing with
  | nil => exact hmore
  | slash hrest ih => exact .slash ih
  | dot hrest ih =>
      rw [List.cons_append, List.append_assoc]
      exact .dot ih

theorem IsBare.append (hbare : path.IsBare) (hclosing : Closing closing) :
    IsBare ⟨path.bytes ++ closing⟩ := by
  rcases hbare with hbare | ⟨rest, hbytes, hrest⟩
  · exact Or.inl (hbare.append hclosing)
  · refine Or.inr ⟨rest ++ closing, ?_, hrest.append hclosing⟩
    rw [hbytes, List.append_assoc]

theorem Leads.append {more : Bytes} (hfront : Leads front) (hmore : Leads more) :
    Leads (front ++ more) := by
  rcases hmore with rfl | hmore
  · rwa [List.append_nil]
  · exact Or.inr (by rw [List.getLast?_append, hmore, Option.some_or])

/-- A path ends in the same name behind a directory, and in front of what closes it. -/
theorem EndsIn.append (hends : path.EndsIn name) (hfront : Leads front)
    (hclosing : Closing closing) : EndsIn ⟨front ++ path.bytes ++ closing⟩ name where
  ne_nil := hends.ne_nil
  slash_not_mem := hends.slash_not_mem
  ne_dot := hends.ne_dot
  spelled := by
    obtain ⟨start, rest, hbytes, hstart, hrest⟩ := hends.spelled
    refine ⟨front ++ start, rest ++ closing, ?_, hfront.append hstart, hrest.append hclosing⟩
    simp only [hbytes, List.append_assoc]

/-- A path has no name or ends in one. -/
theorem isBare_or_endsIn (path : Path) : path.IsBare ∨ ∃ name, path.EndsIn name := by
  obtain ⟨bytes⟩ := path
  induction hlength : bytes.length using Nat.strongRecOn generalizing bytes with
  | ind length ih =>
      by_cases hslash : slash ∈ bytes
      · obtain ⟨front, last, rfl, hlast⟩ := exists_last_slash hslash
        by_cases hname : last = [] ∨ last = Name.dot
        · -- What is behind the last slash closes the path in front of it.
          have hclosing : Closing (slash :: last) := by
            rcases hname with rfl | rfl
            · exact .slash .nil
            · exact .dot .nil
          rcases ih front.length (by simp [← hlength]) front rfl with hbare | ⟨name, hends⟩
          · exact Or.inl (hbare.append hclosing)
          · exact Or.inr ⟨name, hends.append (Or.inl rfl) hclosing⟩
        · rw [not_or] at hname
          refine Or.inr ⟨last, hname.1, hlast, hname.2, front ++ [slash], [], ?_, ?_, .nil⟩
          · simp
          · exact Or.inr List.getLast?_concat
      · by_cases hname : bytes = [] ∨ bytes = Name.dot
        · rcases hname with rfl | rfl
          · exact Or.inl (Or.inl .nil)
          · exact Or.inl (Or.inr ⟨[], rfl, .nil⟩)
        · rw [not_or] at hname
          exact Or.inr ⟨bytes, hname.1, hslash, hname.2, [], [], by simp, Or.inl rfl, .nil⟩

/-! ## The name of a file -/

theorem fileName?_eq (path : Path) : path.fileName? =
    (names path.bytes).getLast?.bind fun last =>
      if last = Name.dotDot then none else some last := by
  have hnames : path.components.filter (· ≠ Name.dot) = names path.bytes := rfl
  rw [fileName?, hnames]
  cases (names path.bytes).getLast? <;> rfl

theorem IsBare.fileName? (hbare : path.IsBare) : path.fileName? = none := by
  rw [fileName?_eq, hbare.names_eq_nil]
  rfl

theorem EndsIn.fileName? (hends : path.EndsIn name) :
    path.fileName? = if name = Name.dotDot then none else some name := by
  rw [fileName?_eq, hends.getLast?_names]
  rfl

end Decommission.Path
