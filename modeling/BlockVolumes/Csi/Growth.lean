import BlockVolumes.Csi.Capability
import BlockVolumes.Csi.Volume

/-
  Requests that make a volume larger in the backend, and its
  filesystem on a node.

  Key definitions include:
    * `Csi.ExpandVolume.Request.ofMessage`
    * `Csi.ExpandVolume.Outcome`
    * `Csi.NodeExpand.Request.ofMessage`
-/

namespace BlockVolumes

namespace Csi

open Rpc (Status)

------------------------------------------------------------
-- In the Backend
------------------------------------------------------------

namespace ExpandVolume

/- A request for a larger volume as messages carry it. -/
structure Message where
  volumeId : String := ""
  range : Option RangeMessage := none
  secrets : Dictionary := []
  capability : Option CapabilityMessage := none
  deriving DecidableEq, Repr

/- A request for a larger volume. -/
structure Request where
  volumeId : String
  range : Capacity.Range
  secrets : Dictionary
  capability : Option Capability
  deriving DecidableEq, Repr

/- Reads a request; the first wrong field is reported. -/
def Request.ofMessage
    (message : Message) : Except Status Request := do
  let volumeId ←
    required message.volumeId
      "ControllerExpandVolumeRequest.volume_id is empty"
  let range ←
    match message.range with
    | none =>
        .error (.invalidArgument
          "ControllerExpandVolumeRequest.capacity_range missing")
    | some range => readRange range
  let capability ← message.capability.mapM Capability.ofMessage
  return {
    volumeId := volumeId
    range := range
    secrets := message.secrets
    capability := capability }

/- The size after the request, and whether a node has to act. -/
structure Outcome where
  capacity : Nat
  nodeMustExpand : Bool
  deriving DecidableEq, Repr

/- An outcome as messages carry it. -/
structure Answer where
  capacityBytes : Int
  nodeMustExpand : Bool
  deriving DecidableEq, Repr

/- Writes an outcome. -/
def Outcome.toAnswer
    (outcome : Outcome) : Answer :=
  ⟨signed64 outcome.capacity, outcome.nodeMustExpand⟩

/- How the request fails. -/
inductive Error where
  | exceedsCapabilities (detail : String)
  | disabled
  | volumeMissing (detail : String)
  | volumeInUse (detail : String)
  | unsupportedRange (detail : String)
  | other (status : Status)
  deriving DecidableEq, Repr

namespace Error

/- The wording of an error in reports. -/
def display? : Error → Option String
  | exceedsCapabilities detail =>
      some ("Exceeds capabilities: " ++ detail)
  | disabled => some "Volume expansion is disabled"
  | volumeMissing detail =>
      some ("Volume does not exist: " ++ detail)
  | volumeInUse detail => some ("Volume in use: " ++ detail)
  | unsupportedRange detail =>
      some ("Unsupported 'capacity_range': " ++ detail)
  | other _ => none

/- The answer to a failed request. -/
def status : Error → Status
  | exceedsCapabilities detail => ⟨.invalidArgument, detail⟩
  | disabled => ⟨.unimplemented, "Volume expansion is disabled"⟩
  | volumeMissing detail => ⟨.notFound, detail⟩
  | volumeInUse detail => ⟨.failedPrecondition, detail⟩
  | unsupportedRange detail => ⟨.outOfRange, detail⟩
  | other status => status

end Error

end ExpandVolume

------------------------------------------------------------
-- On a Node
------------------------------------------------------------

namespace NodeExpand

/- A request to grow a filesystem as messages carry it. -/
structure Message where
  volumeId : String := ""
  volumePath : String := ""
  range : Option RangeMessage := none
  stagingPath : String := ""
  capability : Option CapabilityMessage := none
  deriving DecidableEq, Repr

/- A request to grow the filesystem at a path. -/
structure Request where
  volumeId : String
  volumePath : Path
  range : Option Capacity.Range
  stagingPath : Option Path
  capability : Option Capability
  deriving DecidableEq, Repr

/- Reads a request; the first wrong field is reported. -/
def Request.ofMessage
    (message : Message) : Except Status Request := do
  let volumeId ←
    required message.volumeId
      "NodeExpandVolumeRequest.volume_id is empty"
  let volumePath ←
    absolutePath message.volumePath
      "NodeExpandVolumeRequest.volume_path"
  let stagingPath ←
    optionalAbsolutePath message.stagingPath
      "NodeExpandVolumeRequest.staging_target_path"
  let range ← readOptionalRange message.range
  let capability ← message.capability.mapM Capability.ofMessage
  return {
    volumeId := volumeId
    volumePath := volumePath
    range := range
    stagingPath := stagingPath
    capability := capability }

/- How the request fails. -/
inductive Error where
  | exceedsCapabilities (detail : String)
  | volumeMissing (detail : String)
  | unsupportedRange (detail : String)
  | other (status : Status)
  deriving DecidableEq, Repr

namespace Error

/- The wording of an error in reports. -/
def display? : Error → Option String
  | exceedsCapabilities detail =>
      some ("Exceeds capabilities: " ++ detail)
  | volumeMissing detail =>
      some ("Volume does not exist: " ++ detail)
  | unsupportedRange detail =>
      some ("Unsupported capacity_range: " ++ detail)
  | other _ => none

/- The answer to a failed request, with the whole wording. -/
def status
    (error : Error) : Status :=
  match error with
  | exceedsCapabilities _ =>
      ⟨.invalidArgument, error.display?.getD ""⟩
  | volumeMissing _ => ⟨.notFound, error.display?.getD ""⟩
  | unsupportedRange _ => ⟨.outOfRange, error.display?.getD ""⟩
  | other status => status

end Error

end NodeExpand

end Csi

end BlockVolumes
