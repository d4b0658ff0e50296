import BlockVolumes.Csi.Capability
import BlockVolumes.Csi.Volume

/-
  Requests that attach a volume to a node and detach it, and
  how they fail.

  Key definitions include:
    * `Csi.PublishVolume.Request.ofMessage`
    * `Csi.PublishVolume.Error`
    * `Csi.UnpublishVolume.Request.check`
    * `Csi.UnpublishVolume.Error`
-/

namespace BlockVolumes

namespace Csi

open Rpc (Status)

------------------------------------------------------------
-- Attaching
------------------------------------------------------------

namespace PublishVolume

/- A request to attach a volume as messages carry it. -/
structure Message where
  volumeId : String := ""
  nodeId : String := ""
  capability : Option CapabilityMessage := none
  readonly : Bool := false
  secrets : Dictionary := []
  context : Dictionary := []
  deriving DecidableEq, Repr

/- A request to attach a volume. -/
structure Request where
  volumeId : String
  nodeId : String
  capability : Capability
  readonly : Bool
  secrets : Dictionary
  context : Dictionary
  deriving DecidableEq, Repr

/- Reads a request; the first wrong field is reported. -/
def Request.ofMessage
    (message : Message) : Except Status Request := do
  let volumeId ←
    required message.volumeId
      "ControllerPublishVolumeRequest.volume_id is empty"
  let nodeId ←
    required message.nodeId
      "ControllerPublishVolumeRequest.node_id is empty"
  let capability ←
    match message.capability with
    | none =>
        .error (.invalidArgument
          "ControllerPublishVolumeRequest.volume_capability missing")
    | some capability => Capability.ofMessage capability
  return {
    volumeId := volumeId
    nodeId := nodeId
    capability := capability
    readonly := message.readonly
    secrets := message.secrets
    context := message.context }

/- How the attachment of a volume fails. -/
inductive Error where
  | volumeMissing (detail : String)
  | nodeMissing (detail : String)
  | incompatible (detail : String)
  | publishedElsewhere (detail : String)
  | volumeLimit (detail : String)
  | unsupported (detail : String)
  | other (status : Status)
  deriving DecidableEq, Repr

namespace Error

/- The wording of an error in reports. -/
def display? : Error → Option String
  | volumeMissing detail =>
      some ("Volume does not exist: " ++ detail)
  | nodeMissing detail => some ("Node does not exist: " ++ detail)
  | incompatible detail =>
      some ("Volume published but is incompatible: " ++ detail)
  | publishedElsewhere detail =>
      some ("Volume published to another node: " ++ detail)
  | volumeLimit detail => some ("Max volumes attached: " ++ detail)
  | unsupported detail => some ("Unsupported publish: " ++ detail)
  | other _ => none

/- The answer to a failed request. -/
def status : Error → Status
  | volumeMissing detail => ⟨.notFound, detail⟩
  | nodeMissing detail => ⟨.notFound, detail⟩
  | incompatible detail => ⟨.alreadyExists, detail⟩
  | publishedElsewhere detail => ⟨.failedPrecondition, detail⟩
  | volumeLimit detail => ⟨.resourceExhausted, detail⟩
  | unsupported detail => ⟨.invalidArgument, detail⟩
  | other status => status

end Error

end PublishVolume

------------------------------------------------------------
-- Detaching
------------------------------------------------------------

namespace UnpublishVolume

/- A request to detach a volume. -/
structure Request where
  volumeId : String := ""
  nodeId : String := ""
  secrets : Dictionary := []
  deriving DecidableEq, Repr

/- Accepts a request that names a volume and a node. -/
def Request.check
    (request : Request) : Except Status Request := do
  let _ ←
    required request.volumeId
      "ControllerUnpublishVolumeRequest.volume_id is empty"
  let _ ←
    required request.nodeId
      "ControllerUnpublishVolumeRequest.node_id is empty"
  return request

/- How the detachment of a volume fails. -/
inductive Error where
  | nodeMissing (detail : String)
  | inconsistent (detail : String)
  | other (status : Status)
  deriving DecidableEq, Repr

namespace Error

/- The wording of an error in reports. -/
def display? : Error → Option String
  | nodeMissing detail =>
      some ("Node does not exist and volume not assumed " ++
        "ControllerUnpublished from node: " ++ detail)
  | inconsistent detail =>
      some ("Volume in inconsistent state: " ++ detail)
  | other _ => none

/- The answer to a failed request, with the whole wording. -/
def status
    (error : Error) : Status :=
  match error with
  | nodeMissing _ => ⟨.notFound, error.display?.getD ""⟩
  | inconsistent _ => ⟨.internal, error.display?.getD ""⟩
  | other status => status

end Error

end UnpublishVolume

end Csi

end BlockVolumes
