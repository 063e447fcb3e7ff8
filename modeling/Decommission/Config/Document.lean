import Decommission.Config.Basic
import Decommission.Json.Record
import Decommission.Json.Value

/-!
# Configurations as documents

A configuration, a service and a target each have a written form.  Reading fills in the defaults of
a configuration; a service and a target have to be complete.  Only a path that is text can be
written.
-/

namespace Decommission

open Json

def Path.read (cursor : Cursor) : Except ReadError (Path × Cursor) := do
  let (text, cursor) ← readString "path string" cursor
  return (.ofString text, cursor)

/-- Why a value has no written form. -/
inductive Unwritable where
  | pathNotText
  deriving DecidableEq, Repr

def Unwritable.message : Unwritable → String
  | .pathNotText => "path contains invalid UTF-8 characters"

def Path.toValue (path : Path) : Except Unwritable Value :=
  match path.text? with
  | some text => .ok (.text text)
  | none => .error .pathNotText

/-! ### Services -/

namespace Service

structure Draft where
  name : Option String := none
  label : Option String := none
  definition : Option Path := none

/-- A service with all its fields. -/
def Draft.finish (draft : Draft) : Gathered Service :=
  match draft.name, draft.label, draft.definition with
  | some name, some label, some definition => .ok { name, label, definition }
  | none, _, _ => .error (.missingField "name")
  | _, none, _ => .error (.missingField "label")
  | _, _, none => .error (.missingField "plist")

def format : Record Draft Service where
  expected := "struct ServiceDescriptor"
  blank := {}
  fields :=
    [.plain "name" (·.name) (fun draft name => { draft with name := some name })
        (readString "a string"),
      .plain "label" (·.label) (fun draft label => { draft with label := some label })
        (readString "a string"),
      .plain "plist" (·.definition) (fun draft path => { draft with definition := some path })
        Path.read]
  short count := some (.invalidLength count "struct ServiceDescriptor with 3 elements")
  finish := Draft.finish

def toValue (service : Service) : Except Unwritable Value := do
  let definition ← service.definition.toValue
  return .object
    [("name", .text service.name), ("label", .text service.label), ("plist", definition)]

def ofText (text : String) : Except ReadError Service :=
  readDocument format.read text

end Service

/-! ### Targets -/

namespace TargetKind

/-- The kind of a name, which has to be one of the known ones. -/
def ofName (name : String) : Gathered TargetKind :=
  match ofName? name with
  | some kind => .ok kind
  | none => .error (.unknownVariant name (all.map TargetKind.name))

def readName (cursor : Cursor) : Except ReadError (TargetKind × Cursor) := do
  let (name, cursor) ← readString "variant identifier" cursor
  match ofName name with
  | .ok kind => return (kind, cursor)
  | .error cause => cursor.fail cause

/-- Reads the name of a kind where only a key can stand.  An object without a key lacks a value. -/
def readKey (cursor : Cursor) : Except ReadError (TargetKind × Cursor) :=
  let cursor := cursor.skipSpace
  match cursor.rest with
  | '"' :: _ => readName cursor
  | [] => cursor.failNext .endInObject
  | '\x7d' :: _ => cursor.failNext .expectedValue
  | _ :: _ => cursor.failNext .keyNotString

/-- Reads a kind as the value of a member: its name, or an object with the name as its key and
nothing as its value. -/
def read (cursor : Cursor) : Except ReadError (TargetKind × Cursor) := do
  let (c, cursor) ← atValue cursor
  if c = '"' then readName cursor
  else if c = '\x7b' then
    let (kind, cursor) ← readKey cursor.next
    let cursor ← readNull (← readColon cursor)
    let cursor := cursor.skipSpace
    match cursor.rest with
    | '\x7d' :: _ => return (kind, cursor.next)
    | [] => cursor.fail .endInObject
    | _ :: _ => cursor.fail .expectedValue
  else cursor.failNext .expectedValue

end TargetKind

namespace Target

/-- A path that may have been met before it was known what it belongs to. -/
inductive DraftPath where
  | missing
  /-- Met before the kind: a value of any kind. -/
  | early (found : Found)
  | read (path : Path)

structure Draft where
  kind : Option TargetKind := none
  path : DraftPath := .missing

def Draft.hasPath (draft : Draft) : Bool :=
  match draft.path with
  | .missing => false
  | _ => true

/-- Once the kind is known, an early value has to be a path. -/
def Draft.withKind (draft : Draft) (kind : TargetKind) : Gathered Draft :=
  match draft.path with
  | .early (.text text) => .ok { kind := some kind, path := .read (.ofString text) }
  | .early found => .error (.invalidType found "path string")
  | path => .ok { kind := some kind, path }

def Draft.finish (draft : Draft) : Gathered Target :=
  match draft.kind, draft.path with
  | some kind, .read path => .ok { kind, path }
  | none, _ => .error (.missingField "kind")
  | some _, _ => .error (.missingField "path")

def kindField : RecordField Draft where
  name := "kind"
  isSet draft := draft.kind.isSome
  member draft cursor := do
    let (kind, cursor) ← TargetKind.read cursor
    return (draft.withKind kind, cursor)
  element draft cursor := do
    let (kind, cursor) ← TargetKind.readName cursor
    return ({ draft with kind := some kind }, cursor)

/-- The member that holds the path.  A value met before the kind may nest `depth` deep. -/
def pathField (depth : Nat) : RecordField Draft where
  name := "path"
  isSet := Draft.hasPath
  member draft cursor := do
    if draft.kind.isSome then
      let (path, cursor) ← Path.read cursor
      return (.ok { draft with path := .read path }, cursor)
    else
      let (found, cursor) ← readAny depth cursor
      return (.ok { draft with path := .early found }, cursor)
  element draft cursor := do
    let (path, cursor) ← Path.read cursor
    return ({ draft with path := .read path }, cursor)

def format (depth : Nat) : Record Draft Target where
  expected := "adjacently tagged enum CleanupTarget"
  blank := {}
  fields := [kindField, pathField depth]
  short count := some (.invalidLength count "adjacently tagged enum CleanupTarget")
  finish := Draft.finish

def toValue (target : Target) : Except Unwritable Value := do
  let path ← target.path.toValue
  return .object [("kind", .text target.kind.name), ("path", path)]

/-- How deep a value may nest in a document that holds a target. -/
def depthAlone : Nat := 126

/-- How deep a value may nest in a target of a configuration. -/
def depthInConfig : Nat := 124

def ofText (text : String) : Except ReadError Target :=
  readDocument (format depthAlone).read text

end Target

/-! ### Configurations -/

namespace Config

structure Draft where
  services : Option (List Service) := none
  targets : Option (List Target) := none
  logPath : Option Path := none
  pollInterval : Option UInt64 := none
  stopTimeout : Option UInt64 := none
  launchctl : Option Path := none
  domain : Option String := none
  dryRun : Option Bool := none

/-- A configuration with the defaults of the fields that are missing. -/
def Draft.finish (draft : Draft) : Config where
  services := draft.services.getD standard.services
  targets := draft.targets.getD standard.targets
  logPath := draft.logPath.getD standard.logPath
  pollInterval := draft.pollInterval.getD standard.pollInterval
  stopTimeout := draft.stopTimeout.getD standard.stopTimeout
  launchctl := draft.launchctl.getD standard.launchctl
  domain := draft.domain.getD standard.domain
  dryRun := draft.dryRun.getD standard.dryRun

def fields : List (RecordField Draft) :=
  [.plain "services" (·.services) (fun draft value => { draft with services := some value })
      (readList Service.format.read),
    .plain "targets" (·.targets) (fun draft value => { draft with targets := some value })
      (readList (Target.format Target.depthInConfig).read),
    .plain "log_path" (·.logPath) (fun draft value => { draft with logPath := some value })
      Path.read,
    .plain "poll_interval_ms" (·.pollInterval)
      (fun draft value => { draft with pollInterval := some value }) readUnsigned,
    .plain "stop_timeout_secs" (·.stopTimeout)
      (fun draft value => { draft with stopTimeout := some value }) readUnsigned,
    .plain "launchctl" (·.launchctl) (fun draft value => { draft with launchctl := some value })
      Path.read,
    .plain "domain" (·.domain) (fun draft value => { draft with domain := some value })
      (readString "a string"),
    .plain "dry_run" (·.dryRun) (fun draft value => { draft with dryRun := some value })
      readBoolean]

def format : Record Draft Config where
  expected := "struct PreinstallConfig"
  blank := {}
  fields
  short _ := none
  finish draft := .ok draft.finish

def toValue (config : Config) : Except Unwritable Value := do
  let services ← config.services.mapM Service.toValue
  let targets ← config.targets.mapM Target.toValue
  let logPath ← config.logPath.toValue
  let launchctl ← config.launchctl.toValue
  return .object
    [("services", .list services), ("targets", .list targets), ("log_path", logPath),
      ("poll_interval_ms", .unsigned config.pollInterval),
      ("stop_timeout_secs", .unsigned config.stopTimeout), ("launchctl", launchctl),
      ("domain", .text config.domain), ("dry_run", .boolean config.dryRun)]

def ofText (text : String) : Except ReadError Config :=
  readDocument format.read text

end Config

end Decommission
