import Decommission.Config.Basic
import Decommission.Text.Blank

/-!
# Valid configurations

What a configuration has to fulfil before anything is done.  `validate` names the first fault:
services come first, in order, then targets, then the poll interval and the domain.
-/

namespace Decommission.Config

inductive Defect where
  | emptyName
  | emptyLabel (service : String)
  | noDefinition (service : String)
  | duplicateLabel (label : String)
  | relativeTarget (path : Path)
  | noPollInterval
  | emptyDomain
  deriving DecidableEq, Repr

def Defect.message : Defect → String
  | .emptyName => "service name must not be empty"
  | .emptyLabel service => "service " ++ service ++ " has an empty launchd label"
  | .noDefinition service => "service " ++ service ++ " has no definition file"
  | .duplicateLabel label => "duplicate service label " ++ label
  | .relativeTarget path => "cleanup path " ++ path.display ++ " must be absolute"
  | .noPollInterval => "poll interval must be non-zero"
  | .emptyDomain => "launchd domain must not be empty"

/-- The first defect of services whose predecessors have the labels `taken`. -/
def serviceDefect? (taken : List String) : List Service → Option Defect
  | [] => none
  | service :: rest =>
      if Text.isBlank service.name then some .emptyName
      else if Text.isBlank service.label then some (.emptyLabel service.name)
      else if service.definition.isEmpty then some (.noDefinition service.name)
      else if service.label ∈ taken then some (.duplicateLabel service.label)
      else serviceDefect? (service.label :: taken) rest

/-- The first target that is not named from the root. -/
def targetDefect? (targets : List Target) : Option Defect :=
  (targets.find? fun target => !target.path.isAbsolute).map fun target =>
    .relativeTarget target.path

/-- The first defect of a configuration. -/
def defect? (config : Config) : Option Defect :=
  (serviceDefect? [] config.services).or <|
    (targetDefect? config.targets).or <|
      if config.pollInterval = 0 then some .noPollInterval
      else if Text.isBlank config.domain then some .emptyDomain
      else none

/-- A configuration without defects. -/
def validate (config : Config) : Except Defect Unit :=
  match config.defect? with
  | none => .ok ()
  | some defect => .error defect

end Decommission.Config
