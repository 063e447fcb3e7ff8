import Decommission.CommandLine.Basic
import Decommission.CommandLine.Option

/-!
# Reading the command line

Arguments are read from left to right.  The first one that is neither an option nor the value of
one belongs to the installer, and so does everything behind it; `--` makes the next argument the
first of them.

An option that still waits for its value, or whose value has not been looked at, is pending.  It is
settled when the next option or argument of the installer is reached, and at the end; so its faults
come after those of the options before it and before all others.
-/

namespace Decommission.CommandLine

def readNumber (setting : Setting) (value : Bytes) : Except Refusal UInt64 :=
  match Utf8.decode? value with
  | none => .error .notText
  | some text =>
      (Text.readUInt64 (String.ofList text)).mapError
        (.invalidNumber setting (String.ofList text))

def readPath (setting : Setting) (value : Bytes) : Except Refusal Path :=
  if value.isEmpty then .error (.missingValue setting) else .ok ⟨value⟩

/-- A value that is set for the first time. -/
def once {α : Type} (setting : Setting) (previous : Option α) (value : Except Refusal α) :
    Except Refusal (Option α) :=
  if previous.isSome then .error (.repeated setting.display) else value.map some

def set (line : CommandLine) (setting : Setting) (value : Bytes) : Except Refusal CommandLine := do
  match setting with
  | .config => return { line with config := ← once setting line.config (readPath setting value) }
  | .logFile => return { line with logFile := ← once setting line.logFile (readPath setting value) }
  | .stopTimeout =>
      return { line with stopTimeout := ← once setting line.stopTimeout (readNumber setting value) }
  | .pollInterval =>
      return { line with pollInterval := ← once setting line.pollInterval (readNumber setting value) }

def turnOn (line : CommandLine) : Switch → Except Refusal CommandLine
  | .help => .error .help
  | .version => .error .version
  | .dryRun =>
      if line.dryRun then .error (.repeated Switch.dryRun.display)
      else .ok { line with dryRun := true }
  | .verbose =>
      if line.verbose then .error (.repeated Switch.verbose.display)
      else .ok { line with verbose := true }

/-- An option that is not settled, with its value if that has been met. -/
abbrev Pending := Option (Setting × Option Bytes)

def settle (line : CommandLine) : Pending → Except Refusal CommandLine
  | none => .ok line
  | some (setting, none) => .error (.missingValue setting)
  | some (setting, some value) => line.set setting value

/-- The letters of the options that have one. -/
def letters : List Char := ['c', 'v', 'h', 'V']

/-- What an argument looks like. -/
inductive Shape where
  /-- Two dashes and nothing else. -/
  | escape
  /-- An option that takes a value, by its long name, with the value behind an equals sign. -/
  | setting (setting : Setting) (value : Option Bytes)
  /-- An option that takes none, by its long name, with what is behind an equals sign. -/
  | switch (switch : Switch) (value : Option Bytes)
  /-- A long name that is not even text. -/
  | nameless (name : Bytes)
  /-- Letters of options. -/
  | cluster (letters : List Char)
  /-- Anything else. -/
  | other
  deriving DecidableEq, Repr

def dash : UInt8 := 45

/-- A long name and what is behind its equals sign. -/
def splitLong (bytes : Bytes) : Bytes × Option Bytes :=
  let name := bytes.takeWhile (· ≠ 61)
  (name, if name.length < bytes.length then some (bytes.drop (name.length + 1)) else none)

def Shape.of (argument : Bytes) : Shape :=
  match argument with
  | 45 :: 45 :: [] => .escape
  | 45 :: 45 :: rest =>
      let (name, value) := splitLong rest
      match Utf8.decode? name with
      | none => .nameless name
      | some text =>
          let name := String.ofList text
          match Setting.ofLong? name, Switch.ofLong? name with
          | some option, _ => .setting option value
          | none, some option => .switch option value
          | none, none => .other
  | 45 :: first :: rest =>
      match Utf8.decode? (first :: rest) with
      | some text => if text.all (letters.contains ·) then .cluster text else .other
      | none => .other
  | _ => .other

/-- Reads letters of options; the one that takes a value takes the letters behind it. -/
def readCluster (line : CommandLine) (pending : Pending) :
    List Char → Except Refusal (CommandLine × Pending)
  | [] => .ok (line, pending)
  | letter :: rest => do
      let line ← line.settle pending
      if letter = 'c' then
        if rest.isEmpty then return (line, some (.config, none))
        else return (← line.set .config (Utf8.encode rest), none)
      else
        let switch : Switch :=
          if letter = 'v' then .verbose else if letter = 'h' then .help else .version
        readCluster (← line.turnOn switch) none rest

/-- The arguments of the installer, which have to be text. -/
def readInstaller (line : CommandLine) (pending : Pending) (arguments : List Bytes) :
    Except Refusal CommandLine := do
  let line ← line.settle pending
  match arguments.mapM Utf8.decode? with
  | some texts => return { line with installerArguments := texts.map String.ofList }
  | none => throw .notText

def readFrom (line : CommandLine) (pending : Pending) :
    List Bytes → Except Refusal CommandLine
  | [] => line.settle pending
  | argument :: rest =>
      match Shape.of argument with
      | .escape => readInstaller line pending rest
      | .setting setting none => do
          readFrom (← line.settle pending) (some (setting, none)) rest
      | .setting setting (some value) => do
          let line ← line.settle pending
          readFrom (← line.set setting value) none rest
      | .switch switch (some value) => .error (.unneededValue switch (shown value))
      | .switch switch none => do
          let line ← line.settle pending
          readFrom (← line.turnOn switch) none rest
      | .nameless name => .error (.unknown ("--" ++ shown name))
      | .cluster letters => do
          let (line, pending) ← readCluster line pending letters
          readFrom line pending rest
      | .other =>
          match pending with
          | some (setting, none) => readFrom line (some (setting, some argument)) rest
          | _ => readInstaller line pending (argument :: rest)

/-- Reads a command line without the name of the program. -/
def read (arguments : List Bytes) : Except Refusal CommandLine :=
  readFrom {} none arguments

end Decommission.CommandLine
