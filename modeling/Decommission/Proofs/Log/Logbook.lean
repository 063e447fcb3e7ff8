import Decommission.FileSystem.Arrange
import Decommission.Proofs.FileSystem.Loss
import Decommission.Proofs.Log.Line
import Decommission.Run.Stop

/-!
# Logs side by side

Several programs write their run logs in turn, and the logs may well have the same path.  Between
their lines others remove and rename entries.  Through all of that a log that is open stays with its
file: each of its lines is appended to that file, and what the file had before stays in front.
-/

namespace Decommission

variable {τ : Type}

/-! ## Calls -/

/-- What a program asks of its log. -/
inductive LogCall where
  | line (message : String)
  /-- To trap a code that stands for a failure. -/
  | onError (caller origin : Origin) (code : Int) (command : String)
  | abort (caller : Origin) (fault : Fault)

/-- The message that goes to the log with an event, and its stamp. -/
def Event.line? : Event → Option (Stamp × String)
  | .said stamp message | .trapped stamp message => some (stamp, message)
  | _ => none

namespace LogCall

def perform (clock : Clock τ) : LogCall → Act Unit τ Unit
  | line message => Act.say clock message
  | onError caller origin code command => Act.checkCode clock caller origin code command
  | abort caller fault => Act.trap clock caller fault

/-- The message that a call sends to its log. -/
def message? (log : RunLog) : LogCall → Option String
  | line message => some message
  | onError caller origin code command =>
      match ControlOutcome.ofCode code with
      | .success | .benignRace => none
      | .failed code => some (log.fatal caller (.service code command origin))
  | abort caller fault => some (log.fatal caller fault)

variable {call : LogCall} (clock : Clock τ) (scene : Scene Unit τ)

theorem perform_of_quiet (hquiet : call.message? scene.log = none) :
    call.perform clock scene = ⟨.done (), [], scene⟩ := by
  cases call with
  | line message | abort caller fault => cases hquiet
  | onError caller origin code command =>
      rw [message?] at hquiet
      rw [perform, Act.checkCode]
      cases hcode : ControlOutcome.ofCode code with
      | success | benignRace => rfl
      | failed code =>
          rw [hcode] at hquiet
          cases hquiet

/-- A call with a message writes one line. -/
theorem perform_of_message {message : String} (hmessage : call.message? scene.log = some message) :
    ∃ ending event,
      event.line? = some ((clock.stamp scene.clock).1, message) ∧
      call.perform clock scene = ⟨ending, [event], { scene with
        clock := (clock.stamp scene.clock).2
        log := (scene.log.write (clock.stamp scene.clock).1 message scene.files).1
        files := (scene.log.write (clock.stamp scene.clock).1 message scene.files).2 }⟩ := by
  cases call with
  | line _ | abort _ _ =>
      cases hmessage
      exact ⟨_, _, rfl, rfl⟩
  | onError caller origin code command =>
      rw [message?] at hmessage
      rw [perform, Act.checkCode]
      cases hcode : ControlOutcome.ofCode code with
      | success | benignRace =>
          rw [hcode] at hmessage
          cases hmessage
      | failed code =>
          rw [hcode] at hmessage
          cases hmessage
          exact ⟨_, _, rfl, rfl⟩

end LogCall

/-! ## Turns -/

/-- What others do to the entries of a file system. -/
inductive Disturbance where
  | unlink (path : Path)
  | removeDirectory (path : Path)
  | removeTree (path : Path)
  | rename (path target : Path)

namespace Disturbance

def apply (files : FileSystem) : Disturbance → FileSystem
  | unlink path => (files.unlink path).2
  | removeDirectory path => (files.removeDirectory path).toOption.getD files
  | removeTree path => (files.removeTree path).2
  | rename path target => files.rename path target

/-- Entries come and go, and the files stay as they are. -/
theorem objects_apply (disturbance : Disturbance) (files : FileSystem) :
    (disturbance.apply files).objects = files.objects := by
  cases disturbance with
  | unlink path => exact (files.unlink_loses path).objects
  | removeTree path => exact (files.removeTree_loses path).objects
  | removeDirectory path =>
      rw [apply]
      cases hremove : files.removeDirectory path with
      | error error => rfl
      | ok after => exact (FileSystem.removeDirectory_loses hremove).objects
  | rename path target =>
      rw [apply, FileSystem.rename]
      split
      · split
        · rfl
        · dsimp only
          split
          · rfl
          · split <;> rfl
      · rfl

end Disturbance

inductive Turn where
  /-- One of the logs is called. -/
  | call (index : Nat) (call : LogCall)
  | disturbance (disturbance : Disturbance)

/-- A line that one of the logs was to write. -/
structure Posting where
  index : Nat
  stamp : Stamp
  message : String
  /-- The file that the log has open by then.  Without one the line is lost. -/
  file : Option ObjectId

namespace Posting

/-- The lines of one log. -/
def ofLog (index : Nat) (postings : List Posting) : List Posting :=
  postings.filter fun posting => posting.index = index

/-- The lines that went to one file. -/
def into (object : ObjectId) (postings : List Posting) : List Posting :=
  postings.filter fun posting => posting.file = some object

/-- Whole lines, one after the other. -/
def bytes (postings : List Posting) : Bytes :=
  postings.flatMap fun posting => bytesOf (RunLog.line posting.stamp posting.message)

section Append

variable (postings more : List Posting)

theorem into_append (object : ObjectId) :
    into object (postings ++ more) = into object postings ++ into object more :=
  List.filter_append _ _

theorem bytes_append : bytes (postings ++ more) = bytes postings ++ bytes more :=
  List.flatMap_append

end Append

end Posting

/-- Several logs, and what they share. -/
structure Logbook (τ : Type) where
  logs : List RunLog
  files : FileSystem
  clock : τ

namespace Logbook

/-- The logs with these paths and names of programs, nothing written to them so far. -/
def fresh (names : List (Path × String)) (files : FileSystem) (clock : τ) : Logbook τ :=
  ⟨names.map fun name => .opened name.1 name.2, files, clock⟩

/-- The file that a log has open. -/
def handle? (book : Logbook τ) (index : Nat) : Option ObjectId :=
  book.logs[index]?.bind RunLog.handle

/-- One turn, and the lines that it posts. -/
def turn (clock : Clock τ) (book : Logbook τ) : Turn → Logbook τ × List Posting
  | .disturbance disturbance => ({ book with files := disturbance.apply book.files }, [])
  | .call index call =>
      match book.logs[index]? with
      | none => (book, [])
      | some log =>
          let performed := call.perform clock ⟨(), book.clock, book.files, log, .fresh⟩
          let next := performed.scene
          (⟨book.logs.set index next.log, next.files, next.clock⟩,
            (performed.events.filterMap Event.line?).map fun (stamp, message) =>
              ⟨index, stamp, message, next.log.handle⟩)

/-- Turn after turn, with all the lines posted. -/
def replay (clock : Clock τ) (book : Logbook τ) : List Turn → Logbook τ × List Posting
  | [] => (book, [])
  | turn :: rest =>
      let (next, postings) := book.turn clock turn
      let (last, more) := next.replay clock rest
      (last, postings ++ more)

end Logbook

/-- What one turn can come to. -/
inductive Turn.Takes (clock : Clock τ) (book : Logbook τ) :
    Turn → Logbook τ × List Posting → Prop where
  | disturbed {disturbance : Disturbance} :
      Takes clock book (.disturbance disturbance)
        ({ book with files := disturbance.apply book.files }, [])
  | absent {index call} (hlog : book.logs[index]? = none) :
      Takes clock book (.call index call) (book, [])
  | quiet {index call log} (hlog : book.logs[index]? = some log)
      (hquiet : call.message? log = none) : Takes clock book (.call index call) (book, [])
  /-- The log is not open and cannot be opened, and the line is lost. -/
  | lost {index call log message stamp time cause} (hlog : book.logs[index]? = some log)
      (hmessage : call.message? log = some message) (hstamp : clock.stamp book.clock = (stamp, time))
      (hclosed : log.handle = none) (hrefused : book.files.openAppend log.path = .error cause) :
      Takes clock book (.call index call)
        ({ book with clock := time }, [⟨index, stamp, message, none⟩])
  /-- The log is not open.  It is opened, and the line goes to its file. -/
  | opened {index call log message stamp time object files} (hlog : book.logs[index]? = some log)
      (hmessage : call.message? log = some message) (hstamp : clock.stamp book.clock = (stamp, time))
      (hclosed : log.handle = none)
      (hopen : book.files.openAppend log.path = .ok (object, files)) :
      Takes clock book (.call index call)
        (⟨book.logs.set index { log with handle := some object },
          files.append object (bytesOf (RunLog.line stamp message)), time⟩,
          [⟨index, stamp, message, some object⟩])
  /-- The log is open, and the line goes to its file. -/
  | appended {index call log message stamp time object} (hlog : book.logs[index]? = some log)
      (hmessage : call.message? log = some message) (hstamp : clock.stamp book.clock = (stamp, time))
      (hhandle : log.handle = some object) :
      Takes clock book (.call index call)
        ({ book with
            files := book.files.append object (bytesOf (RunLog.line stamp message))
            clock := time },
          [⟨index, stamp, message, some object⟩])

namespace Logbook

variable {clock : Clock τ} {book : Logbook τ}

theorem set_self {index : Nat} {log : RunLog} (hlog : book.logs[index]? = some log) :
    book.logs.set index log = book.logs := by
  obtain ⟨hindex, rfl⟩ := List.getElem?_eq_some_iff.mp hlog
  exact List.set_getElem_self hindex

/-- A log that is sent a message writes it, opens its file and writes it, or loses it. -/
theorem takes_write {index : Nat} {call : LogCall} {log : RunLog} {message : String} {stamp : Stamp}
    {time : τ} (hlog : book.logs[index]? = some log) (hmessage : call.message? log = some message)
    (hstamp : clock.stamp book.clock = (stamp, time)) :
    (Turn.call index call).Takes clock book
      (⟨book.logs.set index (log.write stamp message book.files).1,
        (log.write stamp message book.files).2, time⟩,
        [⟨index, stamp, message, (log.write stamp message book.files).1.handle⟩]) := by
  cases hhandle : log.handle with
  | some object =>
      have hattach := RunLog.attach_of_handle hhandle book.files
      rw [RunLog.write_of_attach hattach, ← hhandle]
      dsimp only
      rw [set_self hlog, hhandle]
      exact .appended hlog hmessage hstamp hhandle
  | none =>
      cases hopen : book.files.openAppend log.path with
      | error cause =>
          have hattach : log.attach book.files = .error cause := by
            rw [RunLog.attach, hhandle, hopen]
          rw [RunLog.write_of_refused hattach, set_self hlog, hhandle]
          exact .lost hlog hmessage hstamp hhandle hopen
      | ok opened =>
          have hattach : log.attach book.files = .ok opened := by
            rw [RunLog.attach, hhandle, hopen]
          rw [RunLog.write_of_attach hattach]
          exact .opened hlog hmessage hstamp hhandle hopen

theorem takes_turn (clock : Clock τ) (book : Logbook τ) (turn : Turn) :
    turn.Takes clock book (book.turn clock turn) := by
  cases turn with
  | disturbance disturbance => exact .disturbed
  | call index call =>
      rw [Logbook.turn]
      cases hlog : book.logs[index]? with
      | none => exact .absent hlog
      | some log =>
          dsimp only
          cases hmessage : call.message? log with
          | none =>
              rw [LogCall.perform_of_quiet clock ⟨(), book.clock, book.files, log, .fresh⟩ hmessage]
              dsimp only
              rw [set_self hlog]
              exact .quiet hlog hmessage
          | some message =>
              obtain ⟨ending, event, hline, hperform⟩ :=
                LogCall.perform_of_message clock ⟨(), book.clock, book.files, log, .fresh⟩ hmessage
              rw [hperform]
              dsimp only
              rw [List.filterMap_cons_some hline, List.filterMap_nil, List.map_singleton]
              exact takes_write hlog hmessage rfl

end Logbook

end Decommission
