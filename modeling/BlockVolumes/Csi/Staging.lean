import BlockVolumes.Csi.Capability
import BlockVolumes.Csi.Volume

/-
  Requests that mount a volume on a node: at its staging path
  first, then at the target path of each user.

  Requests are read against a view of the directories that
  exist at that time.

  Key definitions include:
    * `Csi.NodeStage.Request.ofMessage`
    * `Csi.NodeUnstage.Request.ofMessage`
    * `Csi.NodePublish.Request.ofMessage`
    * `Csi.NodeUnpublish.Request.ofMessage`
-/

namespace BlockVolumes

namespace Csi

open Rpc (Status)

/- A path that is given has to start at the root and be a
directory. -/
def existingDirectory
    (isDirectory : Path → Bool)
    (value field : String) : Except Status Path :=
  if !(Path.mk value).isAbsolute then
    .error (.invalidArgument (field ++ " is not absolute"))
  else if !isDirectory ⟨value⟩ then
    .error (.invalidArgument (field ++ " is not a directory"))
  else
    .ok ⟨value⟩

/- Reads a capability that has to be there. -/
def requiredCapability
    (complaint : String) :
    Option CapabilityMessage → Except Status Capability
  | none => .error (.invalidArgument complaint)
  | some message => Capability.ofMessage message

------------------------------------------------------------
-- Staging
------------------------------------------------------------

namespace NodeStage

/- A request to stage a volume as messages carry it. -/
structure Message where
  volumeId : String := ""
  publishContext : Dictionary := []
  stagingPath : String := ""
  capability : Option CapabilityMessage := none
  secrets : Dictionary := []
  context : Dictionary := []
  deriving DecidableEq, Repr

/- A request to stage a volume. -/
structure Request where
  volumeId : String
  publishContext : Dictionary
  stagingPath : Path
  capability : Capability
  secrets : Dictionary
  context : Dictionary
  deriving DecidableEq, Repr

/- Reads a request; the first wrong field is reported. -/
def Request.ofMessage
    (isDirectory : Path → Bool)
    (message : Message) : Except Status Request := do
  let volumeId ←
    required message.volumeId
      "NodeStageVolumeRequest.volume_id is empty"
  let staging ←
    required message.stagingPath
      "NodeStageVolumeRequest.staging_target_path is empty"
  let stagingPath ←
    existingDirectory isDirectory staging
      "NodeStageVolumeRequest.staging_target_path"
  let capability ←
    requiredCapability
      "NodeStageVolumeRequest.volume_capability is missing"
      message.capability
  return {
    volumeId := volumeId
    publishContext := message.publishContext
    stagingPath := stagingPath
    capability := capability
    secrets := message.secrets
    context := message.context }

/- How staging fails. -/
inductive Error where
  | volumeMissing (detail : String)
  | incompatible (detail : String)
  | exceedsCapabilities (detail : String)
  | other (status : Status)
  deriving DecidableEq, Repr

namespace Error

/- The wording of an error in reports. -/
def display? : Error → Option String
  | volumeMissing detail =>
      some ("Volume does not exist: " ++ detail)
  | incompatible detail =>
      some ("Volume published but is incompatible: " ++ detail)
  | exceedsCapabilities detail =>
      some ("Exceeds capabilities: " ++ detail)
  | other _ => none

/- The answer to a failed request, with the whole wording. -/
def status
    (error : Error) : Status :=
  match error with
  | volumeMissing _ => ⟨.notFound, error.display?.getD ""⟩
  | incompatible _ => ⟨.alreadyExists, error.display?.getD ""⟩
  | exceedsCapabilities _ =>
      ⟨.failedPrecondition, error.display?.getD ""⟩
  | other status => status

end Error

end NodeStage

------------------------------------------------------------
-- Unstaging
------------------------------------------------------------

namespace NodeUnstage

/- A request to unstage a volume as messages carry it. -/
structure Message where
  volumeId : String := ""
  stagingPath : String := ""
  deriving DecidableEq, Repr

/- A request to unstage a volume. -/
structure Request where
  volumeId : String
  stagingPath : Path
  deriving DecidableEq, Repr

/- Reads a request; the first wrong field is reported. -/
def Request.ofMessage
    (message : Message) : Except Status Request := do
  let volumeId ←
    required message.volumeId
      "NodeUnstageVolumeRequest.volume_id is empty"
  let stagingPath ←
    absolutePath message.stagingPath
      "NodeUnstageVolumeRequest.staging_target_path"
  return ⟨volumeId, stagingPath⟩

/- How unstaging fails. -/
inductive Error where
  | volumeMissing (detail : String)
  | other (status : Status)
  deriving DecidableEq, Repr

namespace Error

/- The wording of an error in reports. -/
def display? : Error → Option String
  | volumeMissing detail =>
      some ("Volume does not exist: " ++ detail)
  | other _ => none

/- The answer to a failed request. -/
def status : Error → Status
  | volumeMissing detail => .notFound detail
  | other status => status

end Error

end NodeUnstage

------------------------------------------------------------
-- Publishing
------------------------------------------------------------

namespace NodePublish

/- A request to publish a volume as messages carry it. -/
structure Message where
  volumeId : String := ""
  publishContext : Dictionary := []
  stagingPath : String := ""
  targetPath : String := ""
  capability : Option CapabilityMessage := none
  readonly : Bool := false
  secrets : Dictionary := []
  context : Dictionary := []
  deriving DecidableEq, Repr

/- A request to publish a volume at a target path. -/
structure Request where
  volumeId : String
  publishContext : Dictionary
  stagingPath : Option Path
  targetPath : Path
  capability : Capability
  readonly : Bool
  secrets : Dictionary
  context : Dictionary
  deriving DecidableEq, Repr

/-
  Reads a request; the first wrong field is reported. The
  target need not exist, but the directory above it has to.
-/
def Request.ofMessage
    (isDirectory : Path → Bool)
    (message : Message) : Except Status Request := do
  let volumeId ←
    required message.volumeId
      "NodePublishVolumeRequest.volume_id is empty"
  let stagingPath ←
    if message.stagingPath.isEmpty then .ok none
    else
      (existingDirectory isDirectory message.stagingPath
        "NodePublishVolumeRequest.staging_target_path").map some
  let targetPath ←
    absolutePath message.targetPath
      "NodePublishVolumeRequest.target_path"
  let _ ←
    if (targetPath.parent?.map isDirectory).getD false then .ok ()
    else
      .error (.invalidArgument
        ("NodePublishVolumeRequest.target_path has no parent " ++
          "directory"))
  let capability ←
    requiredCapability
      "NodePublishVolumeRequest.volume_capability missing"
      message.capability
  return {
    volumeId := volumeId
    publishContext := message.publishContext
    stagingPath := stagingPath
    targetPath := targetPath
    capability := capability
    readonly := message.readonly
    secrets := message.secrets
    context := message.context }

/- How publishing fails. -/
inductive Error where
  | volumeMissing (detail : String)
  | incompatible (detail : String)
  | exceedsCapabilities (detail : String)
  | notStaged (detail : String)
  | other (status : Status)
  deriving DecidableEq, Repr

namespace Error

/- The wording of an error in reports. -/
def display? : Error → Option String
  | volumeMissing detail =>
      some ("Volume does not exist: " ++ detail)
  | incompatible detail =>
      some ("Volume published but is incompatible: " ++ detail)
  | exceedsCapabilities detail =>
      some ("Exceeds capabilities: " ++ detail)
  | notStaged detail =>
      some ("Staging target path not set: " ++ detail)
  | other _ => none

/- The answer to a failed request, with the whole wording. -/
def status
    (error : Error) : Status :=
  match error with
  | volumeMissing _ => ⟨.notFound, error.display?.getD ""⟩
  | incompatible _ => ⟨.alreadyExists, error.display?.getD ""⟩
  | exceedsCapabilities _ =>
      ⟨.failedPrecondition, error.display?.getD ""⟩
  | notStaged _ => ⟨.failedPrecondition, error.display?.getD ""⟩
  | other status => status

end Error

end NodePublish

------------------------------------------------------------
-- Unpublishing
------------------------------------------------------------

namespace NodeUnpublish

/- A request to unpublish a volume as messages carry it. -/
structure Message where
  volumeId : String := ""
  targetPath : String := ""
  deriving DecidableEq, Repr

/- A request to unpublish a volume. -/
structure Request where
  volumeId : String
  targetPath : Path
  deriving DecidableEq, Repr

/- Reads a request; the first wrong field is reported. -/
def Request.ofMessage
    (message : Message) : Except Status Request := do
  let volumeId ←
    required message.volumeId
      "NodeUnpublishVolumeRequest.volume_id is empty"
  let targetPath ←
    absolutePath message.targetPath
      "NodeUnpublishVolumeRequest.target_path"
  return ⟨volumeId, targetPath⟩

/- How unpublishing fails. -/
inductive Error where
  | volumeMissing (detail : String)
  | other (status : Status)
  deriving DecidableEq, Repr

namespace Error

/- The wording of an error in reports. -/
def display? : Error → Option String
  | volumeMissing detail =>
      some ("Volume does not exist: " ++ detail)
  | other _ => none

/- The answer to a failed request. -/
def status : Error → Status
  | volumeMissing detail => .notFound detail
  | other status => status

end Error

end NodeUnpublish

end Csi

end BlockVolumes
