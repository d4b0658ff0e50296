import BlockVolumes.Service.Duplicates
import BlockVolumes.Service.Zones

/-
  Creating and deleting volumes. Creation is repeated by its
  callers, so a volume of the wanted name and size that exists
  already is taken for the one to be created.

  Key definitions include:
    * `Service.describeVolume`
    * `Service.Creation.findExisting`
    * `Service.Creation.tryTypes`
    * `Service.Creation.create`
    * `Service.Creation.delete`
-/

namespace BlockVolumes

namespace Service

open Rpc (Status)

------------------------------------------------------------
-- Volumes in Answers
------------------------------------------------------------

/- The key of the disk type in the context of a volume. -/
def diskTypeKey : String := "type"

/- The key of the zone in the context of a volume. -/
def zoneKey : String := "zone"

/- The place from which the volumes of a zone are reachable. -/
def placeOf
    (settings : Settings)
    (zone : String) : Dictionary :=
  (if settings.region.isEmpty then []
    else [(Cluster.regionKey, settings.region)]) ++
  [(Cluster.zoneKey, zone)]

/- A volume as answers describe it. The size is in GiB. -/
def describeVolume
    (settings : Settings)
    (id : String)
    (size : Nat)
    (diskType zone : String) : Csi.Volume :=
  { id := id
    capacity := Csi.nonzero (size * Capacity.gib)
    context := [(diskTypeKey, diskType), (zoneKey, zone)]
    topology := [placeOf settings zone] }

/- A volume of the backend as answers describe it. -/
def describeDisk
    (settings : Settings)
    (disk : Disk) : Csi.Volume :=
  describeVolume settings disk.id disk.size disk.diskType disk.zone

namespace Creation

open Csi.CreateVolume (Request)

------------------------------------------------------------
-- Existing Volumes
------------------------------------------------------------

/- Accepts a volume that is what a request would create. -/
def accept
    (name : String)
    (size : Nat)
    (disk : Disk) : Except Csi.CreateVolume.Error Disk :=
  if disk.status = .error then
    .error (raise (.inconsistent disk.id
      ("an earlier create of " ++ name ++
        " left it in error state")))
  else if disk.size ≠ size then
    .error (.alreadyExists
      ("volume " ++ disk.id ++ " named " ++ name ++ " has " ++
        toString disk.size ++ "Gi, requested " ++ toString size ++
        "Gi"))
  else
    .ok disk

/-
  The volume that an earlier request of the same name created.
  Volumes that are being deleted do not count.
-/
def findExisting
    (settings : Settings)
    (name : String)
    (size : Nat) :
    Program Host Csi.CreateVolume.Error (Option Disk) := do
  let disks ←
    within (during .backend "find volumes named" name
      (Host.backend (.find name)))
  match disks.filter fun disk => disk.status != .deleting with
  | [] => return none
  | [disk] => some <$> Program.ofExcept (accept name size disk)
  | several =>
      let disk ←
        within (Duplicates.resolve settings name size several)
      some <$> Program.ofExcept (accept name size disk)

------------------------------------------------------------
-- New Volumes
------------------------------------------------------------

/- The request that creates a volume of a type. -/
def specify
    (settings : Settings)
    (name : String)
    (size : Nat)
    (zone : String)
    (parameters : Parameters)
    (diskType : String) : Backend.CreateSpec :=
  { name := name
    size := size
    diskType := diskType
    zone := zone
    region := settings.region
    projectId := parameters.projectId <|> settings.projectId
    chargeType := parameters.chargeType.map ChargeType.name
    purchaseTime := parameters.purchaseTime
    performanceLevel :=
      parameters.performanceLevel.map PerformanceLevel.name
    tags := parameters.tags.insert Disk.creatorTag settings.name }

/-
  Tries one type after the other until the backend does not
  reject one. The identifier of the new volume and its type
  are returned, or the error of the last attempt.
-/
def tryTypes
    (specOf : String → Backend.CreateSpec)
    (last : Backend.Error) :
    List String → Program Host Backend.Error (String × String)
  | [] => throw last
  | diskType :: diskTypes => do
      match ← Host.askBackend (.create (specOf diskType)) with
      | .ok id => return (id, diskType)
      | .error error =>
          if error.isRejected then tryTypes specOf error diskTypes
          else throw error

/- The error where there is no type at all. -/
def noType : Backend.Error :=
  .rejected "no disk type to try"

/- Creates a volume in a zone. -/
def createDisk
    (settings : Settings)
    (name : String)
    (size : Nat)
    (zone : String)
    (parameters : Parameters) :
    Program Host Error (String × String) :=
  during .backend "create volume" name
    (tryTypes (specify settings name size zone parameters)
      noType parameters.diskTypes)

------------------------------------------------------------
-- The Procedures
------------------------------------------------------------

/- What is to be created. -/
structure Order where
  size : Nat
  parameters : Parameters
  deriving DecidableEq, Repr

/- Accepts every capability, in order. -/
def checkAll :
    List Csi.Capability → Except Status Unit
  | [] => .ok ()
  | capability :: capabilities => do
      capability.check
      checkAll capabilities

/-
  Reads what a request orders, without looking at anything but
  the request and the settings.
-/
def readOrder
    (settings : Settings)
    (request : Request) : Except Status Order := do
  checkAll request.capabilities
  match request.source with
  | some _ =>
      throw ⟨.unimplemented,
        "Creating volumes from snapshots or volumes is not supported"⟩
  | none =>
      match request.range with
      | none =>
          throw (.invalidArgument
            "CreateVolumeRequest.capacity_range is required")
      | some range =>
          let size ←
            (Capacity.allocate settings.capacity
              (some range)).mapError Capacity.Refusal.status
          let parameters ←
            (Parameters.parse settings.diskType
              request.parameters).mapError Parameters.Fault.status
          return ⟨size, parameters⟩

/- Creates a volume, or finds the one that was created before. -/
def create
    (settings : Settings)
    (request : Request) :
    Program Host Csi.CreateVolume.Error Csi.Volume := do
  let order ← checked (readOrder settings request)
  match ← findExisting settings request.name order.size with
  | some disk => return describeDisk settings disk
  | none =>
      let zone ←
        within (Zones.choose settings.nodeRole order.parameters
          request.requirement)
      let (id, diskType) ←
        within (createDisk settings request.name order.size zone
          order.parameters)
      return describeVolume settings id order.size diskType zone

/- Deletes a volume, or finds that it is gone already. -/
def delete
    (request : Csi.DeleteVolume.Request) :
    Program Host Csi.DeleteVolume.Error Unit := do
  match ← Host.askBackend (.delete request.volumeId) with
  | .ok () => return ()
  | .error error =>
      if error.isNotFound then return ()
      else
        throw (raise (.during "delete volume" request.volumeId
          (.backend error)))

end Creation

end Service

end BlockVolumes
