import Decommission.CommandLine.Basic
import Decommission.Proofs.FileSystem.Components
import Decommission.Proofs.Text.Lossy

/-!
# The name of the program

In the run log the program has the name of the file that it was called by.  The directories in front
of it do not matter, nor what closes the path; and whatever the program was called by, the name could
be that of a file.
-/

namespace Decommission

/-- What a file can be called: something, without a slash, and neither of the names that every
directory has for itself and for the one above it. -/
structure IsFileName (text : String) : Prop where
  ne_empty : text ≠ ""
  slash_not_mem : '/' ∉ text.toList
  ne_dot : text ≠ "."
  ne_dotDot : text ≠ ".."

namespace CommandLine

/-- The name that a program is called by, if there is one. -/
inductive CalledBy : Option Path → Option Name → Prop where
  | absent : CalledBy none none
  | bare {path} (hbare : path.IsBare) : CalledBy (some path) none
  | upwards {path} (hends : path.EndsIn Name.dotDot) : CalledBy (some path) none
  | name {path name} (hends : path.EndsIn name) (hname : name ≠ Name.dotDot) :
      CalledBy (some path) (some name)

variable {called : Option Path} {path : Path} {name : Name} {name? : Option Name}

theorem exists_calledBy (called : Option Path) : ∃ name?, CalledBy called name? := by
  cases called with
  | none => exact ⟨none, .absent⟩
  | some path =>
      rcases path.isBare_or_endsIn with hbare | ⟨name, hends⟩
      · exact ⟨none, .bare hbare⟩
      · by_cases hname : name = Name.dotDot
        · exact ⟨none, .upwards (hname ▸ hends)⟩
        · exact ⟨some name, .name hends hname⟩

theorem CalledBy.fileName? (hcalled : CalledBy called name?) :
    called.bind Path.fileName? = name? := by
  cases hcalled with
  | absent => rfl
  | bare hbare => exact hbare.fileName?
  | upwards hends => exact hends.fileName?.trans (if_pos rfl)
  | name hends hname => exact hends.fileName?.trans (if_neg hname)

theorem CalledBy.entryPoint (hcalled : CalledBy called name?) :
    entryPoint called = (name?.map shown).getD defaultEntryPoint := by
  rw [CommandLine.entryPoint, hcalled.fileName?]
  cases name? <;> rfl

theorem isFileName_shown (hends : path.EndsIn name) (hname : name ≠ Name.dotDot) :
    IsFileName (shown name) := by
  have hrepaired : Utf8.Repaired name (Utf8.decodeLossy name) := Utf8.repaired_decodeLossy name
  -- A text without a mark is shown of its own bytes only.
  have hother : ∀ text : List Char, Utf8.replacement ∉ text → Utf8.encode text ≠ name →
      shown name ≠ String.ofList text := by
    intro text hmark hne hshown
    rw [shown, String.ofList_inj] at hshown
    rw [hshown] at hrepaired
    exact hne (hrepaired.eq_encode hmark).symm
  have hslash : '/' ∉ Utf8.decodeLossy name := by
    intro hmem
    rcases hrepaired.within_of_mem hmem with hmark | hwithin
    · exact absurd hmark (by decide)
    · exact hends.slash_not_mem (hwithin.subset (by decide))
  constructor
  · exact hother [] (by simp) hends.ne_nil.symm
  · rwa [shown, String.toList_ofList]
  · exact hother ['.'] (by decide) hends.ne_dot.symm
  · exact hother ['.', '.'] (by decide) hname.symm

theorem isFileName_entryPoint (called : Option Path) : IsFileName (entryPoint called) := by
  obtain ⟨name?, hcalled⟩ := exists_calledBy called
  rw [hcalled.entryPoint]
  cases hcalled with
  | absent | bare | upwards => exact ⟨by decide, by decide, by decide, by decide⟩
  | name hends hname => exact isFileName_shown hends hname

/-- A program that is called by a path has the name in which the path ends, as far as that is text,
whatever leads to it and whatever closes the path.  Without such a name it has a name of its own. -/
theorem entryPoint_calledBy (called : Option Path) :
    IsFileName (entryPoint called) ∧ (∃ name?, CalledBy called name?) ∧
    (CalledBy called none → entryPoint called = "salt-preinstall") ∧
    ∀ path name, called = some path → CalledBy called (some name) →
      Utf8.Repaired name (entryPoint called).toList ∧
      (∀ text, Utf8.decode? name = some text → entryPoint called = String.ofList text) ∧
      ∀ front closing, Path.Leads front → Path.Closing closing →
        entryPoint (some ⟨front ++ path.bytes ++ closing⟩) = entryPoint called := by
  refine ⟨isFileName_entryPoint called, exists_calledBy called, CalledBy.entryPoint, ?_⟩
  rintro path name rfl hcalled
  have hshown : entryPoint (some path) = shown name := hcalled.entryPoint
  obtain ⟨hends, hname⟩ : path.EndsIn name ∧ name ≠ Name.dotDot := by
    cases hcalled with
    | name hends hname => exact ⟨hends, hname⟩
  refine ⟨?_, fun text htext => ?_, fun front closing hfront hclosing => ?_⟩
  · rw [hshown, shown, String.toList_ofList]
    exact Utf8.repaired_decodeLossy name
  · rw [hshown, shown, Utf8.decodeLossy_of_decode? htext]
  · rw [hshown]
    exact (CalledBy.name (hends.append hfront hclosing) hname).entryPoint

/-- A program with a name that is not text, and one that is called by the directory above. -/
theorem entryPoint_calledBy_marked :
    let path : Path := ⟨bytesOf "/tmp/./Scripts/" ++ [0x70, 0xE2, 0x82, 0x2E] ++ bytesOf "//./"⟩
    let above : Path := .ofString "/opt/salt/../."
    CalledBy (some path) (some [0x70, 0xE2, 0x82, 0x2E]) ∧
      entryPoint (some path) = "p\uFFFD." ∧
      entryPoint (some ⟨bytesOf "../" ++ path.bytes ++ bytesOf "/"⟩) = "p\uFFFD." ∧
      CalledBy (some above) none ∧ entryPoint (some above) = "salt-preinstall" := by
  intro path above
  have hcalled : CalledBy (some path) (some [0x70, 0xE2, 0x82, 0x2E]) := by
    refine .name ⟨by decide, by decide, by decide, bytesOf "/tmp/./Scripts/", bytesOf "//./", rfl,
      Or.inr (by decide), ?_⟩ (by decide)
    exact .slash (.dot (.slash .nil))
  have habove : CalledBy (some above) none := by
    refine .upwards ⟨by decide, by decide, by decide, bytesOf "/opt/salt/", bytesOf "/.", by decide,
      Or.inr (by decide), ?_⟩
    exact .dot .nil
  have hshown : entryPoint (some path) = "p\uFFFD." := by
    decide +kernel
  obtain ⟨-, -, -, hnamed⟩ := entryPoint_calledBy (some path)
  obtain ⟨-, -, hfallback, -⟩ := entryPoint_calledBy (some above)
  obtain ⟨-, -, hsame⟩ := hnamed path _ rfl hcalled
  refine ⟨hcalled, hshown, ?_, habove, hfallback habove⟩
  rw [← hshown]
  exact hsame (bytesOf "../") (bytesOf "/") (Or.inr (by decide)) (.slash .nil)

end CommandLine

end Decommission
