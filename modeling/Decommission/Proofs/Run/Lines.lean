import Decommission.Proofs.Log.Line
import Decommission.Proofs.Run.Law

/-!
# Acts that only log

Stopping services leaves the files alone but for the run log: the log is opened once, and from then
on lines are appended to that one file.  A dry pass of cleaning up does no more than that either.
-/

namespace Decommission.Act

variable {σ τ : Type}

/-- All that has happened to the log and the files is that lines went to the log. -/
def OnlyLogs (first : Scene σ τ) (_ : List Event) (last : Scene σ τ) : Prop :=
  (last.log = first.log ∧ last.files = first.files) ∨
    ∃ object opened bytes, first.log.attach first.files = .ok (object, opened) ∧
      last.log = { first.log with handle := some object } ∧
      last.files = opened.append object bytes

theorem onlyLogs_write (clock : Clock τ) (message : String) (event : Stamp → String → Event) :
    (write clock message event : Act σ τ Unit).Obeys OnlyLogs := by
  intro scene
  unfold write
  cases hattach : scene.log.attach scene.files with
  | error error =>
      simp only [RunLog.write_of_refused hattach]
      exact Or.inl ⟨rfl, rfl⟩
  | ok attached =>
      obtain ⟨object, opened⟩ := attached
      simp only [RunLog.write_of_attach hattach]
      exact Or.inr ⟨object, opened, _, hattach, rfl, rfl⟩

theorem composes_onlyLogs : Composes (σ := σ) (τ := τ) OnlyLogs where
  nothing _ := Or.inl ⟨rfl, rfl⟩
  append := by
    intro first middle last events more hfirst hmore
    rcases hfirst with ⟨hlog, hfiles⟩ | ⟨object, opened, bytes, hattach, hlog, hfiles⟩
    · unfold OnlyLogs at hmore ⊢
      rwa [hlog, hfiles] at hmore
    · rcases hmore with ⟨hlog', hfiles'⟩ | ⟨object', opened', bytes', hattach', hlog', hfiles'⟩
      · exact Or.inr ⟨object, opened, bytes, hattach, hlog'.trans hlog, hfiles'.trans hfiles⟩
      · -- The log is open by now, so the later lines go to the file that was opened.
        have hhandle : middle.log.handle = some object := by rw [hlog]
        rw [RunLog.attach_of_handle hhandle] at hattach'
        cases hattach'
        refine Or.inr ⟨object, opened, bytes ++ bytes', hattach, ?_, ?_⟩
        · rw [hlog', hlog]
        · rw [hfiles', hfiles, FileSystem.append_append]

theorem stopLaw_onlyLogs (manager : Manager σ) (clock : Clock τ) :
    StopLaw manager clock OnlyLogs where
  toComposes := composes_onlyLogs
  moved _ hlast := hlast
  said message := onlyLogs_write clock message .said
  trapped message := onlyLogs_write clock message .trapped
  told _ := Or.inl ⟨rfl, rfl⟩
  paused _ _ := Or.inl ⟨rfl, rfl⟩
  listed _ _ := Or.inl ⟨rfl, rfl⟩
  disabled _ _ := Or.inl ⟨rfl, rfl⟩
  bootedOut _ _ := Or.inl ⟨rfl, rfl⟩

theorem onlyLogs_cleanup (clock : Clock τ) (target : Target) :
    (cleanup clock true target : Act σ τ CleanupOutcome).Obeys OnlyLogs := by
  refine Obeys.bind composes_onlyLogs (fun _ => Or.inl ⟨rfl, rfl⟩) fun present => ?_
  split
  · exact Obeys.bind composes_onlyLogs (onlyLogs_write clock _ _) fun _ =>
      obeys_pure composes_onlyLogs _
  · exact obeys_pure composes_onlyLogs _

theorem onlyLogs_cleanupAll (clock : Clock τ) (targets : List Target) :
    (cleanupAll clock true targets : Act σ τ (List CleanupOutcome)).Obeys OnlyLogs := by
  induction targets with
  | nil => exact obeys_done composes_onlyLogs []
  | cons target rest ih =>
      exact Obeys.bind composes_onlyLogs (onlyLogs_cleanup clock target) fun outcome =>
        Obeys.bind composes_onlyLogs ih fun outcomes => obeys_pure composes_onlyLogs _

/-- Lines take no entry away. -/
theorem OnlyLogs.isPart {first last : Scene σ τ} {events : List Event}
    (hlogs : OnlyLogs first events last) : first.files.IsPart last.files := by
  rcases hlogs with ⟨-, hfiles⟩ | ⟨object, opened, bytes, hattach, -, hfiles⟩
  · rw [hfiles]
    exact FileSystem.IsPart.refl _
  · rw [hfiles]
    have hopened := RunLog.isPart_attach hattach
    exact ⟨hopened.here, hopened.entry⟩

end Decommission.Act
