import Decommission.Proofs.Log.Logbook
import Decommission.Rehearsal.Time

/-!
# Logs bound to files

A log that is open stays with its file, whatever happens to the entries that the file is reached by.
So a file contains what it had at first, and then whole lines: those of the logs that are bound to it,
in the order in which they were written.
-/

namespace Decommission

variable {τ : Type}

/-! ## One turn -/

namespace Logbook

/-- Every log that is open has a file. -/
def IsSound (book : Logbook τ) : Prop :=
  ∀ index object, book.handle? index = some object → (book.files.object? object).isSome

theorem handle?_of_log {book : Logbook τ} {index : Nat} {log : RunLog}
    (hlog : book.logs[index]? = some log) : book.handle? index = log.handle := by
  rw [handle?, hlog]
  rfl

theorem handle?_set {book : Logbook τ} {index : Nat} {log : RunLog}
    (hlog : book.logs[index]? = some log) (log' : RunLog) (files : FileSystem) (clock : τ)
    (other : Nat) :
    handle? ⟨book.logs.set index log', files, clock⟩ other =
      if index = other then log'.handle else book.handle? other := by
  have hindex : index < book.logs.length := (List.getElem?_eq_some_iff.mp hlog).1
  rw [handle?, handle?, List.getElem?_set, if_pos hindex]
  split <;> rfl

end Logbook

namespace Turn.Takes

open FileSystem (isSome_object?_append isSome_object?_openAppend isSome_of_openAppend
  content_append_self content_append_of_ne content_openAppend)

variable {clock : Clock τ} {turn : Turn} {book : Logbook τ} {result : Logbook τ × List Posting}

theorem isSound (htakes : turn.Takes clock book result) (hsound : book.IsSound) :
    result.1.IsSound := by
  intro index object hhandle
  cases htakes with
  | @disturbed disturbance =>
      show ((disturbance.apply book.files).object? object).isSome
      rw [FileSystem.object?, disturbance.objects_apply]
      exact hsound index object hhandle
  | absent | quiet | lost => exact hsound index object hhandle
  | appended =>
      rw [isSome_object?_append]
      exact hsound index object hhandle
  | opened hlog _ _ _ hopen =>
      rw [isSome_object?_append]
      rw [Logbook.handle?_set hlog] at hhandle
      split at hhandle
      · cases hhandle
        exact isSome_of_openAppend hopen
      · exact isSome_object?_openAppend hopen (hsound index object hhandle)

/-- A file gets the lines that are posted to it, and nothing else. -/
theorem content (htakes : turn.Takes clock book result) (hsound : book.IsSound)
    (object : ObjectId) :
    result.1.files.content object =
      book.files.content object ++ Posting.bytes (Posting.into object result.2) := by
  have hline : ∀ {files : FileSystem} {target : ObjectId} (index : Nat) (stamp : Stamp)
      (message : String), (files.object? target).isSome →
        (files.append target (bytesOf (RunLog.line stamp message))).content object =
          files.content object ++
            Posting.bytes (Posting.into object [⟨index, stamp, message, some target⟩]) := by
    intro files target index stamp message htarget
    by_cases hsame : object = target
    · subst hsame
      rw [content_append_self htarget]
      simp [Posting.into, Posting.bytes]
    · rw [content_append_of_ne hsame]
      simp [Posting.into, Posting.bytes, Ne.symm hsame]
  cases htakes with
  | @disturbed disturbance =>
      show (disturbance.apply book.files).content object = _
      rw [FileSystem.content, FileSystem.object?, disturbance.objects_apply]
      exact (List.append_nil _).symm
  | absent | quiet | lost => exact (List.append_nil _).symm
  | opened _ _ _ _ hopen =>
      rw [hline _ _ _ (isSome_of_openAppend hopen), content_openAppend hopen]
  | appended hlog _ _ hhandle =>
      exact hline _ _ _ (hsound _ _ ((Logbook.handle?_of_log hlog).trans hhandle))

end Turn.Takes

/-! ## Turn after turn -/

namespace Logbook

variable (clock : Clock τ) (book : Logbook τ) (turns : List Turn)

theorem replay_cons (turn : Turn) :
    book.replay clock (turn :: turns) =
      (((book.turn clock turn).1.replay clock turns).1,
        (book.turn clock turn).2 ++ ((book.turn clock turn).1.replay clock turns).2) := rfl

theorem replay_append (earlier later : List Turn) :
    book.replay clock (earlier ++ later) =
      (((book.replay clock earlier).1.replay clock later).1,
        (book.replay clock earlier).2 ++ ((book.replay clock earlier).1.replay clock later).2) := by
  induction earlier generalizing book with
  | nil => rfl
  | cons turn rest ih => rw [List.cons_append, replay_cons, replay_cons, ih, List.append_assoc]

variable {clock book}

theorem content_replay (hsound : book.IsSound) (object : ObjectId) :
    (book.replay clock turns).1.files.content object = book.files.content object ++
      Posting.bytes (Posting.into object (book.replay clock turns).2) := by
  induction turns generalizing book with
  | nil => exact (List.append_nil _).symm
  | cons turn rest ih =>
      have htakes := takes_turn clock book turn
      rw [replay_cons]
      dsimp only
      rw [ih (htakes.isSound hsound), htakes.content hsound, Posting.into_append,
        Posting.bytes_append, List.append_assoc]

/-- What the logs come to in these turns. -/
structure Keeps (clock : Clock τ) (start : Logbook τ) (turns : List Turn) : Prop where
  /-- Each turn does what a turn can do.  So a message to a log that is not open has the log try to
  open its file, and is lost alone if that fails. -/
  takes : ∀ earlier turn later, turns = earlier ++ turn :: later →
    let book := (start.replay clock earlier).1
    turn.Takes clock book (book.turn clock turn)
  /-- A log that is open has the same file open ever after. -/
  bound : ∀ earlier later, turns = earlier ++ later → ∀ index object,
    (start.replay clock earlier).1.handle? index = some object →
      (start.replay clock turns).1.handle? index = some object
  /-- What a file contains stays in front of what is added. -/
  grows : ∀ earlier later, turns = earlier ++ later → ∀ object,
    (start.replay clock earlier).1.files.content object <+:
      (start.replay clock turns).1.files.content object
  /-- A file contains what it had at first and the whole lines that went to it. -/
  content : ∀ object, (start.replay clock turns).1.files.content object =
    start.files.content object ++
      Posting.bytes (Posting.into object (start.replay clock turns).2)
  /-- Of the lines of a log the first ones may be lost.  All others went, in their order, to the file
  that the log has open in the end, and none went to another file. -/
  delivered : ∀ index, ∃ lost kept,
    Posting.ofLog index (start.replay clock turns).2 = lost ++ kept ∧
      (∀ posting ∈ lost, posting.file = none) ∧ (∀ posting ∈ kept, posting.file ≠ none) ∧
      ∀ object, Posting.ofLog index (Posting.into object (start.replay clock turns).2) =
        if (start.replay clock turns).1.handle? index = some object then kept else []

example :
    let path := Path.ofString "/log/run.txt"
    let files := FileSystem.empty.makeDirectory (.ofString "/log")
    let turns : List Turn :=
      [.call 0 (.line "a"), .disturbance (.rename path (.ofString "/log/old.txt")),
        .call 1 (.line "b"), .call 0 (.line "c")]
    let book := fresh [(path, "preinstall"), (path, "preinstall")] files ({} : Rehearsal.Time)
    (book.replay Rehearsal.Time.clock turns).2.map Posting.file = [some 0, some 1, some 0] := by
  decide

end Logbook

end Decommission
