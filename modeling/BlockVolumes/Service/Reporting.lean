import BlockVolumes.Service.Attaching
import BlockVolumes.Service.Creation

/-
  Reports on volumes: whether they can be used in some ways,
  all of them, and one of them.

  Key definitions include:
    * `Service.Reporting.validate`
    * `Service.Reporting.list`
    * `Service.Reporting.get`
-/

namespace BlockVolumes

namespace Service

namespace Reporting

open Csi (Condition VolumeState)
open Csi.ValidateCapabilities (Verdict)

------------------------------------------------------------
-- Capabilities
------------------------------------------------------------

/- The verdict on the capabilities of a request. -/
def judge
    (request : Csi.ValidateCapabilities.Request) : Verdict :=
  match Creation.checkAll request.capabilities with
  | .error status => .unconfirmed status.message
  | .ok () =>
      .confirmed
        { context := some request.context
          capabilities := request.capabilities
          parameters := some request.parameters }

/- Whether an existing volume has some capabilities. -/
def validate
    (request : Csi.ValidateCapabilities.Request) :
    Program Host Csi.ValidateCapabilities.Error Verdict := do
  let _ ←
    Attaching.getVolume
      Csi.ValidateCapabilities.Error.volumeMissing request.volumeId
  return judge request

------------------------------------------------------------
-- All Volumes
------------------------------------------------------------

/- What the list says about the state of a volume. -/
def listedState
    (disk : Disk) : VolumeState :=
  match disk.status with
  | .error =>
      { condition := some (.broken "Volume is in error state") }
  | .inUse =>
      { nodes := disk.attachedTo
        condition := some (.normal "Volume is in use") }
  | status => { condition := some (.normal status.name) }

/- The entry of a volume in the list. -/
def listEntry
    (settings : Settings)
    (disk : Disk) : Csi.ListVolumes.Entry :=
  { volume := describeDisk settings disk
    state := some (listedState disk) }

/- Lists the volumes, without those that are being deleted. -/
def list
    (settings : Settings)
    (request : Csi.ListVolumes.Request) :
    Program Host Csi.ListVolumes.Error
      (List Csi.ListVolumes.Entry) :=
  if request.maxEntries.isSome || request.startingToken.isSome then
    throw .noPaging
  else do
    let disks ←
      within (during .backend "list volumes in region"
        settings.region (Host.backend .list))
    return (disks.filter fun disk =>
      disk.status != .deleting).map (listEntry settings)

------------------------------------------------------------
-- One Volume
------------------------------------------------------------

/-
  The condition of a volume on some instances: each of them
  has to run a node that is ready.
-/
def nodeCondition :
    List String → Program Host Error Condition
  | [] => return .normal "Volume is attached to a ready node"
  | instanceId :: instances => do
      let node ←
        during .cluster "find node running instance" instanceId
          (Host.cluster (.findNode instanceId))
      match (node : Option Cluster.Node) with
      | none =>
          return .broken
            ("No cluster node runs instance " ++ instanceId)
      | some node =>
          if node.ready then nodeCondition instances
          else
            return .broken ("Node " ++ node.name ++ " is not ready")

/- What there is to say about the state of a volume. -/
def stateOf
    (volumeId : String)
    (disk : Disk) : Program Host Error VolumeState :=
  match disk.status with
  | .error =>
      return { condition := some (.broken
        ("Volume " ++ volumeId ++ " is in error state")) }
  | .inUse => do
      let condition ← nodeCondition disk.attachedTo
      return { nodes := disk.attachedTo, condition := some condition }
  | _ => return {}

/- Reports on a volume. -/
def get
    (settings : Settings)
    (request : Csi.GetVolume.Request) :
    Program Host Csi.GetVolume.Error
      (Csi.Volume × VolumeState) := do
  let disk ←
    Attaching.getVolume Csi.GetVolume.Error.volumeMissing
      request.volumeId
  let state ← within (stateOf request.volumeId disk)
  return (describeDisk settings disk, state)

end Reporting

end Service

end BlockVolumes
