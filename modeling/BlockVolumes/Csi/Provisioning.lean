import BlockVolumes.Csi.Capability
import BlockVolumes.Csi.Volume

/-
  Requests that create and delete volumes, and how they fail.

  Key definitions include:
    * `Csi.CreateVolume.Request.ofMessage`
    * `Csi.CreateVolume.Error`
    * `Csi.DeleteVolume.Request.check`
    * `Csi.DeleteVolume.Error`
-/

namespace BlockVolumes

namespace Csi

open Rpc (Status)

------------------------------------------------------------
-- Creating
------------------------------------------------------------

namespace CreateVolume

/- A request to create a volume as messages carry it. -/
structure Message where
  name : String := ""
  range : Option RangeMessage := none
  capabilities : List CapabilityMessage := []
  parameters : Dictionary := []
  secrets : Dictionary := []
  source : Option ContentSource := none
  requirement : Option TopologyRequirement := none
  deriving DecidableEq, Repr

/- A request to create a volume. -/
structure Request where
  name : String
  range : Option Capacity.Range
  capabilities : List Capability
  parameters : Dictionary
  secrets : Dictionary
  source : Option ContentSource
  requirement : Option TopologyRequirement
  deriving DecidableEq, Repr

/- Reads a request; the first wrong field is reported. -/
def Request.ofMessage
    (message : Message) : Except Status Request := do
  let name ← required message.name "CreateVolumeRequest.name is empty"
  let range ← readOptionalRange message.range
  let capabilities ←
    if message.capabilities.isEmpty then
      .error (.invalidArgument
        "CreateVolumeRequest.volume_capabilities is empty")
    else
      Capability.ofMessages message.capabilities
  let source ← ContentSource.ofMessage message.source
  return {
    name := name
    range := range
    capabilities := capabilities
    parameters := message.parameters
    secrets := message.secrets
    source := source
    requirement := message.requirement }

/- How the creation of a volume fails. -/
inductive Error where
  | alreadyExists (detail : String)
  | unsupportedRange (detail : String)
  | exhausted (detail : String)
  | other (status : Status)
  deriving DecidableEq, Repr

namespace Error

/- The wording of an error in reports. -/
def display? : Error → Option String
  | alreadyExists detail =>
      some ("Volume already exists but is incompatible: " ++ detail)
  | unsupportedRange detail =>
      some ("Unsupported capacity_range: " ++ detail)
  | exhausted detail => some ("Resource exhausted: " ++ detail)
  | other _ => none

/- The answer to a failed request. -/
def status : Error → Status
  | alreadyExists detail => ⟨.alreadyExists, detail⟩
  | unsupportedRange detail => ⟨.outOfRange, detail⟩
  | exhausted detail => ⟨.resourceExhausted, detail⟩
  | other status => status

end Error

end CreateVolume

------------------------------------------------------------
-- Deleting
------------------------------------------------------------

namespace DeleteVolume

/- A request to delete a volume. -/
structure Request where
  volumeId : String := ""
  secrets : Dictionary := []
  deriving DecidableEq, Repr

namespace Request

/- Accepts a request that names a volume. -/
def check
    (request : Request) : Except Status Request := do
  let _ ←
    required request.volumeId
      "DeleteVolumeRequest.volume_id is empty"
  return request

/- The request in reports, which hide what the secrets are. -/
def describe
    (request : Request) : String :=
  "DeleteVolumeRequest \x7b volume_id: " ++
    Text.quote request.volumeId ++ ", secrets: \x7b" ++
    ", ".intercalate
      (request.secrets.map fun entry =>
        Text.quote entry.1 ++ ": \"SECRET\"") ++
    "\x7d \x7d"

end Request

/- How the deletion of a volume fails. -/
inductive Error where
  | volumeInUse (detail : String)
  | other (status : Status)
  deriving DecidableEq, Repr

namespace Error

/- The wording of an error in reports. -/
def display? : Error → Option String
  | volumeInUse detail => some ("Volume in use: " ++ detail)
  | other _ => none

/- The answer to a failed request. -/
def status : Error → Status
  | volumeInUse detail => ⟨.failedPrecondition, detail⟩
  | other status => status

end Error

end DeleteVolume

end Csi

end BlockVolumes
