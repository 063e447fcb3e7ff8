import Decommission.Control.Cancellation
import Decommission.Control.Launchctl
import Decommission.FileSystem.Resolve

/-!
# Programs in a file system

A stand-in for the programs of a system.  What may be run, and how starting a program fails, is
decided by the file system; a few files are known to be programs, and one of them answers from a
script.
-/

namespace Decommission.Rehearsal

/-- How a scripted call goes on. -/
inductive Course where
  | exits (code : Int)
  /-- A signal ends it. -/
  | signalled
  /-- It runs until somebody cancels it. -/
  | hangs
  deriving DecidableEq, Repr

/-- What a call of the scripted program does. -/
structure Response where
  errorOutput : Bytes
  course : Course
  deriving DecidableEq, Repr

/-- What is in a file that can be run. -/
inductive Program where
  | exits (code : Int)
  /-- Answers from the responses.  This one is a script for an interpreter of its own. -/
  | scripted
  deriving DecidableEq, Repr

/-- A file that is about to be run, and the path it was found under. -/
structure Image where
  path : Path
  object : ObjectId
  content : Bytes

/-- What a script names in its first line. -/
structure Interpreter where
  path : Path
  argument : Option Bytes
  deriving DecidableEq, Repr

namespace Interpreter

/-- The number of bytes of a script that are looked at. -/
def headLength : Nat := 256

def isBlank (byte : UInt8) : Bool := byte = 32 || byte = 9

def isTerminator (byte : UInt8) : Bool := isBlank byte || byte = 0

/-- The head of a script, made up with zeros if the script is shorter. -/
def head (content : Bytes) : Bytes :=
  content.take headLength ++ List.replicate (headLength - content.length) 0

/-- The first line behind its mark.  If the line does not end in the head, at least the name in it
has to. -/
def line? (head : Bytes) : Option Bytes :=
  let line := head.takeWhile fun byte => byte ≠ 10 && byte ≠ 0
  if (head.drop line.length).head? = some 10 then some (line.drop 2)
  else if ((head.drop 2).dropWhile isBlank).any isTerminator then some (head.dropLast.drop 2)
  else none

/-- The name and the argument in a line.  Everything behind the name is one argument. -/
def ofLine? (line : Bytes) : Option Interpreter :=
  let line := (line.reverse.dropWhile isBlank).reverse.dropWhile isBlank
  let name := line.takeWhile (!isTerminator ·)
  let rest := line.drop name.length
  let argument := (rest.dropWhile isBlank).takeWhile (· ≠ 0)
  if line.isEmpty then none
  else some ⟨⟨name⟩, if rest.head?.any isBlank then some argument else none⟩

/-- The interpreter of a script. -/
def of? (content : Bytes) : Option Interpreter :=
  match head content with
  | 35 :: 33 :: _ => (line? (head content)).bind ofLine?
  | _ => none

end Interpreter

/-- The programs and what has become of their calls. -/
structure Programs where
  known : List (ObjectId × Program) := []
  /-- The responses that are left, by the first argument. -/
  responses : List (String × List Response) := []
  /-- The arguments of the calls of the scripted program, the last one first. -/
  record : List (List String) := []
  /-- The calls that are running. -/
  running : List (Group × Response) := []
  /-- The group of the next call. -/
  next : Group := 1

namespace Programs

def searchPath : List Path := [.ofString "/usr/bin", .ofString "/bin"]

def argumentLimit : Nat := 131072

/-- Looks for the file under a path, which has to be one that may be run. -/
def executable (files : FileSystem) (path : Path) : Except IoError Image := do
  match ← files.resolve true path with
  | .present _ (.file object) =>
      match files.object? object with
      | some file =>
          if file.access.executable then return ⟨path, object, file.content⟩
          else throw (.os .accessDenied)
      | none => throw (.os .noEntry)
  | .present _ _ => throw (.os .accessDenied)
  | .vacant _ _ => throw (.os .noEntry)

/-- Loads a file with its arguments.  A script is run by its interpreter, which gets the name of the
script in front of the arguments and can be a script too; only a few can stand in a row. -/
def load (programs : Programs) (files : FileSystem) :
    (scripts : Nat) → Image → List String → Except IoError (Program × List String)
  | scripts, image, arguments =>
      match programs.known.lookup image.object, Interpreter.of? image.content with
      | some (.exits code), _ => .ok (.exits code, arguments)
      | some .scripted, _ =>
          if scripts = 0 then .error (.os .tooManyLinks) else .ok (.scripted, arguments)
      | none, none => .error (.os .badExecutable)
      | none, some interpreter => do
          let next ←
            if interpreter.path.isEmpty then throw (.os .accessDenied)
            else executable files interpreter.path
          match scripts with
          | 0 => throw (.os .tooManyLinks)
          | scripts + 1 =>
              load programs files scripts next
                (interpreter.argument.toList.map shown ++ image.path.display :: arguments)

def scriptLimit : Nat := 5

/-- Looks for a program under a path.  The arguments are looked at before the file is. -/
def locate (programs : Programs) (files : FileSystem) (arguments : List String) (path : Path) :
    Except IoError (Program × List String) := do
  let image ← executable files path
  if arguments.any (argumentLimit ≤ ·.utf8ByteSize) then throw (.os .argumentsTooLong)
  else programs.load files scriptLimit image arguments

/-- The errors of one directory behind which the search goes on. -/
def isPassedOver (error : IoError) : Bool :=
  error = .os .noEntry || error = .os .notDirectory || error = .os .accessDenied

def search (programs : Programs) (files : FileSystem) (arguments : List String) (name : Bytes) :
    (denied : Bool) → List Path → Except IoError (Program × List String)
  | denied, [] => .error (.os (if denied then .accessDenied else .noEntry))
  | denied, directory :: rest =>
      match programs.locate files arguments (directory.join name) with
      | .ok program => .ok program
      | .error error =>
          if isPassedOver error then
            search programs files arguments name (denied || error = .os .accessDenied) rest
          else .error error

/-- Looks for a program under a path or, without a slash, by its name. -/
def find (programs : Programs) (files : FileSystem) (path : Path) (arguments : List String) :
    Except IoError (Program × List String) :=
  if path.bytes.contains Path.slash then programs.locate files arguments path
  else if path.isEmpty then .error (.os .noEntry)
  else if Name.maxLength < path.bytes.length then .error (.os .nameTooLong)
  else programs.search files arguments path.bytes false searchPath

/-- Takes the next response for arguments; without one, nothing is loaded and all else works. -/
def respond (programs : Programs) (arguments : List String) : Response × Programs :=
  let request := arguments.head?.getD ""
  let left := (programs.responses.lookup request).getD []
  let standard : Response := ⟨[], .exits (if request = "list" then 113 else 0)⟩
  let responses := programs.responses.map fun (other, queue) =>
    (other, if other = request then queue.tail else queue)
  (left.head?.getD standard,
    { programs with responses, record := arguments :: programs.record })

def spawn (path : Path) (arguments : List String) (files : FileSystem) (programs : Programs) :
    Except IoError Group × Programs :=
  if path.hasNul || arguments.any (·.toList.contains '\x00') then (.error .nulInArgument, programs)
  else
    match programs.find files path arguments with
    | .error error => (.error error, programs)
    | .ok (program, arguments) =>
        let (response, programs) : Response × Programs := match program with
          | .exits code => (⟨[], .exits code⟩, programs)
          | .scripted => programs.respond arguments
        (.ok programs.next,
          { programs with
            running := (programs.next, response) :: programs.running
            next := programs.next + 1 })

/-- Waits for a call.  One that hangs is cancelled by somebody else together with all others. -/
def wait (group : Group) (calls : Calls) (programs : Programs) :
    Except IoError Ended × Calls × Programs :=
  let left := { programs with running := programs.running.filter (·.1 ≠ group) }
  match programs.running.lookup group with
  | none => (.ok ⟨none, []⟩, calls, left)
  | some ⟨errorOutput, .exits code⟩ => (.ok ⟨some code, errorOutput⟩, calls, left)
  | some ⟨errorOutput, .signalled⟩ => (.ok ⟨none, errorOutput⟩, calls, left)
  | some ⟨errorOutput, .hangs⟩ =>
      let (_, calls) := Cancellation.begin calls 0
      (.ok ⟨none, errorOutput⟩, calls, left)

/-- The programs as children of the control program. -/
def children : Children Programs where
  spawn
  wait

/-- The calls of the scripted program as it wrote them down. -/
def recordText (programs : Programs) : String :=
  let line (arguments : List String) : String :=
    String.join (arguments.map fun argument => "[" ++ argument ++ "]") ++ "\n"
  String.join (programs.record.reverse.map line)

end Programs

end Decommission.Rehearsal
