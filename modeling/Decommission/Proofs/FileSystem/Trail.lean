import Decommission.Proofs.FileSystem.LastName
import Mathlib.Tactic.ByContra

/-!
# Trails

The trail of a path is made of the places whose entries a walk looks at, those on the way through
links included.  A walk depends on nothing else.  When the path leads somewhere, it needs all of
them: in a part of the file system it leads nowhere if and only if an entry of the trail is missing.
-/

namespace Decommission.FileSystem

variable {files : FileSystem} {follow : Bool} {place : Place} {steps : List Name}

/-- The places that a leg looks at, up to the link in which it ends. -/
def legTrail (files : FileSystem) : Place → List Name → List Place
  | place, [] => [place]
  | place, name :: rest =>
      match files.entry? place with
      | some (.directory _) =>
          if name = Name.dot then place :: legTrail files place rest
          else if name = Name.dotDot then place :: legTrail files place.dropLast rest
          else if Name.maxLength < name.length then [place]
          else
            match files.entry? (place ++ [name]) with
            | none | some (.link _ _) => [place, place ++ [name]]
            | some _ => place :: legTrail files (place ++ [name]) rest
      | _ => [place]

/-- The places that a walk looks at. -/
def walkTrail (files : FileSystem) (follow : Bool) :
    (links : Nat) → Place → List Name → List Place
  | links, place, steps =>
      match files.advance follow place steps with
      | .ok (.link parent target rest) =>
          match links with
          | 0 => files.legTrail place steps
          | links + 1 => files.legTrail place steps ++
              walkTrail files follow links (startOf parent target) (target.steps ++ rest)
      | _ => files.legTrail place steps

/-- The places that are looked at to see where a path leads. -/
def trail (files : FileSystem) (follow : Bool) (path : Path) : List Place :=
  files.walkTrail follow linkLimit (startOf files.here path) path.steps

/-! ## Nothing else matters -/

theorem mem_legTrail (files : FileSystem) (place : Place) (steps : List Name) :
    place ∈ files.legTrail place steps := by
  fun_cases legTrail files place steps <;> simp

section Congruence

variable {other : FileSystem}

section Leg

attribute [local simp] legTrail advance

/-- With the same entries on its trail, a leg is the same leg. -/
theorem leg_congr (follow : Bool)
    (hsame : ∀ seen ∈ files.legTrail place steps, other.entry? seen = files.entry? seen) :
    other.legTrail place steps = files.legTrail place steps ∧
      other.advance follow place steps = files.advance follow place steps := by
  fun_induction legTrail files place steps with
  | case1 place => simp_all
  | case2 place rest guard hdirectory ih =>
      rw [List.forall_mem_cons, hdirectory] at hsame
      obtain ⟨htrail, hleg⟩ := ih hsame.2
      simp [hsame.1, hdirectory, htrail, hleg]
  | case3 place rest guard hdirectory hdot ih =>
      rw [List.forall_mem_cons, hdirectory] at hsame
      obtain ⟨htrail, hleg⟩ := ih hsame.2
      simp [hsame.1, hdirectory, hdot, htrail, hleg]
  | case4 place name rest guard hdirectory hdot hdotDot hlong =>
      rw [List.forall_mem_singleton, hdirectory] at hsame
      simp [hsame, hdirectory, hdot, hdotDot, hlong]
  | case5 place name rest guard hdirectory hdot hdotDot hshort hnone =>
      rw [List.forall_mem_cons, List.forall_mem_singleton, hdirectory, hnone] at hsame
      simp [hsame, hdirectory, hdot, hdotDot, hshort, hnone]
  | case6 place name rest guard hdirectory hdot hdotDot hshort object target hlink =>
      rw [List.forall_mem_cons, List.forall_mem_singleton, hdirectory, hlink] at hsame
      simp [hsame, hdirectory, hdot, hdotDot, hshort, hlink]
  | case7 place name rest guard hdirectory hdot hdotDot hshort entry hentry hnext ih =>
      rw [List.forall_mem_cons, hdirectory] at hsame
      -- The trail behind the name begins with the entry under the name.
      have hsee := hsame.2 _ (files.mem_legTrail _ rest)
      obtain ⟨htrail, hleg⟩ := ih hsame.2
      rw [hnext] at hsee
      simp [hsame.1, hdirectory, hdot, hdotDot, hshort, hnext, hsee, htrail, hleg]
  | case8 place name rest houtside =>
      rw [List.forall_mem_singleton] at hsame
      simp [hsame]

end Leg

theorem mem_walkTrail {links : Nat} {seen : Place} (hseen : seen ∈ files.legTrail place steps) :
    seen ∈ files.walkTrail follow links place steps := by
  fun_cases walkTrail files follow links place steps <;> simp [hseen]

theorem walkTrail_of_error {links : Nat} {code : Errno}
    (hleg : files.advance follow place steps = .error code) :
    files.walkTrail follow links place steps = files.legTrail place steps := by
  unfold walkTrail
  rw [hleg]

theorem walkTrail_of_arrived {links : Nat} {spot : Spot}
    (hleg : files.advance follow place steps = .ok (.arrived spot)) :
    files.walkTrail follow links place steps = files.legTrail place steps := by
  unfold walkTrail
  rw [hleg]

theorem walkTrail_of_last_link {parent : Place} {target : Path} {rest : List Name}
    (hleg : files.advance follow place steps = .ok (.link parent target rest)) :
    files.walkTrail follow 0 place steps = files.legTrail place steps := by
  rw [walkTrail, hleg]

theorem walkTrail_of_link {links : Nat} {parent : Place} {target : Path} {rest : List Name}
    (hleg : files.advance follow place steps = .ok (.link parent target rest)) :
    files.walkTrail follow (links + 1) place steps = files.legTrail place steps ++
      files.walkTrail follow links (startOf parent target) (target.steps ++ rest) := by
  rw [walkTrail, hleg]

/-- With the same entries on its trail, a walk is the same walk. -/
theorem walk_congr {links : Nat}
    (hsame : ∀ seen ∈ files.walkTrail follow links place steps,
      other.entry? seen = files.entry? seen) :
    other.walkTrail follow links place steps = files.walkTrail follow links place steps ∧
      other.walk follow links place steps = files.walk follow links place steps := by
  obtain ⟨htrail, hadvance⟩ := leg_congr follow fun seen hseen => hsame seen (mem_walkTrail hseen)
  fun_induction walk files follow links place steps with
  | case1 links place steps code hleg =>
      rw [hleg] at hadvance
      rw [walkTrail_of_error hleg, walkTrail_of_error hadvance, walk_of_error hadvance]
      exact ⟨htrail, rfl⟩
  | case2 links place steps spot hleg =>
      rw [hleg] at hadvance
      rw [walkTrail_of_arrived hleg, walkTrail_of_arrived hadvance, walk_of_arrived hadvance]
      exact ⟨htrail, rfl⟩
  | case3 place steps parent target rest hleg =>
      rw [hleg] at hadvance
      rw [walkTrail_of_last_link hleg, walkTrail_of_last_link hadvance, walk_of_last_link hadvance]
      exact ⟨htrail, rfl⟩
  | case4 place steps parent target rest hleg links ih =>
      rw [hleg] at hadvance
      rw [walkTrail_of_link hleg, List.forall_mem_append] at hsame
      obtain ⟨hnext, hleads⟩ :=
        leg_congr follow fun seen hseen => hsame.2 seen (mem_walkTrail hseen)
      obtain ⟨hmore, hwalk⟩ := ih hsame.2 hnext hleads
      rw [walkTrail_of_link hleg, walkTrail_of_link hadvance, walk_of_link hadvance, htrail, hmore]
      exact ⟨rfl, hwalk⟩

/-- With the same entries on its trail, a path leads to the same place. -/
theorem find?_congr {path : Path} (hhere : other.here = files.here)
    (hsame : ∀ seen ∈ files.trail follow path, other.entry? seen = files.entry? seen) :
    other.trail follow path = files.trail follow path ∧
      other.find? follow path = files.find? follow path := by
  obtain ⟨htrail, hwalk⟩ := walk_congr hsame
  unfold trail find? resolve
  rw [hhere]
  exact ⟨htrail, by rw [hwalk]⟩

end Congruence

/-! ## Everything matters -/

theorem entry?_of_mem_legTrail {leg : Leg}
    (hvacant : ∀ parent name, leg ≠ .arrived (.vacant parent name))
    (hleg : files.advance follow place steps = .ok leg) :
    ∀ seen ∈ files.legTrail place steps, files.entry? seen ≠ none := by
  fun_induction advance files follow place steps with
  | case1 place entry hentry => simp [legTrail, hentry]
  | case3 place rest guard hdirectory ih =>
      simpa [legTrail, hdirectory] using ih hleg
  | case4 place rest guard hdirectory hdot ih =>
      simpa [legTrail, hdirectory, hdot] using ih hleg
  | case6 place => exact absurd (Except.ok.inj hleg).symm (hvacant _ _)
  | case8 place name rest guard hdirectory hdot hdotDot hshort object target hlink
  | case9 place name rest guard hdirectory hdot hdotDot hshort object target hlink =>
      simp [legTrail, hdirectory, hdot, hdotDot, hshort, hlink]
  | case10 place name rest guard hdirectory hdot hdotDot hshort entry hlink hnext ih =>
      simpa [legTrail, hdirectory, hdot, hdotDot, hshort, hnext] using ih hleg
  | case2 | case5 | case7 | case11 => cases hleg

theorem entry?_of_mem_walkTrail {links : Nat} {spot : Place} {entry : Entry}
    (hwalk : files.walk follow links place steps = .ok (.present spot entry)) :
    ∀ seen ∈ files.walkTrail follow links place steps, files.entry? seen ≠ none := by
  fun_induction walk files follow links place steps with
  | case2 links place steps found hleg =>
      cases hwalk
      rw [walkTrail_of_arrived hleg]
      exact entry?_of_mem_legTrail (by simp) hleg
  | case4 place steps parent target rest hleg links ih =>
      rw [walkTrail_of_link hleg, List.forall_mem_append]
      exact ⟨entry?_of_mem_legTrail (by simp) hleg, ih hwalk⟩
  | case1 | case3 => cases hwalk

theorem entry?_of_mem_trail {path : Path} {found : Place × Entry}
    (hfind : files.find? follow path = some found) :
    ∀ seen ∈ files.trail follow path, files.entry? seen ≠ none :=
  entry?_of_mem_walkTrail (find?_eq_some_iff.mp hfind).2

/-- Where a path leads somewhere in the whole, it leads nowhere in a part if and only if an entry of
its trail is missing there. -/
theorem IsPart.find?_eq_none_iff {part whole : FileSystem} (hpart : part.IsPart whole)
    {path : Path} {found : Place × Entry} (hfind : whole.find? follow path = some found) :
    part.find? follow path = none ↔
      ∃ seen ∈ whole.trail follow path, part.entry? seen = none := by
  have hsame : ∀ seen, part.entry? seen ≠ none → part.entry? seen = whole.entry? seen := by
    intro seen hseen
    obtain ⟨entry, hentry⟩ := Option.ne_none_iff_exists'.mp hseen
    rw [hentry, hpart.entry seen entry hentry]
  constructor
  · intro hnowhere
    by_contra! hall
    rw [(find?_congr hpart.here fun seen hseen => hsame seen (hall seen hseen)).2, hfind]
      at hnowhere
    cases hnowhere
  · rintro ⟨seen, hseen, hmissing⟩
    cases hpath : part.find? follow path with
    | none => rfl
    | some other =>
        have hpresent := entry?_of_mem_trail hpath
        -- The whole has the entries on the trail in the part, so the trails are the same.
        have htrail := (find?_congr hpart.here.symm fun seen hseen =>
          (hsame seen (hpresent seen hseen)).symm).1
        rw [htrail] at hseen
        exact absurd hmissing (hpresent seen hseen)

end Decommission.FileSystem
