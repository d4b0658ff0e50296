import BlockVolumes.Csi.Node
import BlockVolumes.Service.Mounting
import BlockVolumes.Service.Provisioner
import BlockVolumes.Service.Registration

/-
  The node plugin: an attached device becomes a filesystem at
  the paths that are asked for.

  Key definitions include:
    * `Service.NodeAgent.usage`
    * `Service.NodeAgent.expand`
    * `Service.NodeAgent.info`
    * `Service.nodeAgent`
-/

namespace BlockVolumes

namespace Service

namespace NodeAgent

open Csi (Condition)

------------------------------------------------------------
-- Usage
------------------------------------------------------------

/- The condition of the volume at a path. -/
def conditionOf
    (path : Path)
    (mounted : Bool) : Condition :=
  if mounted then .normal "Volume is mounted"
  else .broken (path.text ++ " is not a mount point")

/- The report on the usage of a filesystem. -/
def report
    (condition : Condition)
    (usage : Mount.Usage) : Csi.VolumeStats.Report :=
  { usage :=
      [ ⟨.bytes, usage.totalBytes, usage.availableBytes,
          usage.usedBytes⟩,
        ⟨.inodes, usage.totalInodes, usage.freeInodes,
          usage.usedInodes⟩ ]
    condition := some condition }

/- Whether the path of a volume is there. -/
def volumePathExists
    (volumeId : String)
    (path : Path) : Program Host Error Bool :=
  Mounting.call "look up volume path of" volumeId
    (.pathExists path)

/- Reads how full the filesystem at a path is. -/
def readUsage
    (volumeId : String)
    (path : Path) : Program Host Error Mount.Usage :=
  Mounting.call "read filesystem stats of" volumeId (.usage path)

/- Reports the usage of a volume. -/
def usage
    (request : Csi.VolumeStats.Request) :
    Program Host Csi.VolumeStats.Error
      Csi.VolumeStats.Report := do
  let volumeId := request.volumeId
  let path := request.volumePath
  if ← within (volumePathExists volumeId path) then
    let mounted ←
      within (Mounting.isMounted "check mount of" volumeId path)
    let usage ← within (readUsage volumeId path)
    return report (conditionOf path mounted) usage
  else
    throw (.volumeMissing
      ("volume path " ++ path.text ++ " does not exist"))

------------------------------------------------------------
-- Growing
------------------------------------------------------------

/- The device that is mounted at a path. -/
def deviceMountedAt
    (volumeId : String)
    (path : Path) : Program Host Error (Option (Path × Nat)) :=
  Mounting.call "find device of" volumeId (.deviceMountedAt path)

/- The filesystem that a device holds. -/
def detectFilesystem
    (volumeId : String)
    (device : Path) : Program Host Error (Option String) :=
  Mounting.call "detect filesystem of" volumeId
    (.diskFormat device)

/- The filesystem of the capability of a request. -/
def statedFilesystem
    (request : Csi.NodeExpand.Request) : Option String := do
  let capability ← request.capability
  let spec ← capability.access.mount?
  spec.filesystem

/- Makes the filesystem of a volume as large as its device. -/
def expand
    (request : Csi.NodeExpand.Request) :
    Program Host Csi.NodeExpand.Error (Option Nat) := do
  let volumeId := request.volumeId
  let path := request.volumePath
  match request.capability with
  | some capability => checked capability.check
  | none => pure ()
  match ← within (deviceMountedAt volumeId path) with
  | none =>
      throw (.volumeMissing
        ("nothing is mounted at " ++ path.text))
  | some (device, _) =>
      let filesystem ←
        match statedFilesystem request with
        | some filesystem => pure (some filesystem)
        | none => within (detectFilesystem volumeId device)
      within (Mounting.call "resize filesystem of" volumeId
        (.resize filesystem device path))
      return request.range.bind (·.required?)

------------------------------------------------------------
-- The Node
------------------------------------------------------------

/- The topology that the settings give. -/
def configured
    (settings : Settings) : Topology :=
  { region := settings.region
    zone := settings.zone.getD ""
    volumeLimit := settings.volumesPerNode }

/-
  The topology of the node. Where it is not known, the one of
  the settings stands in for it, and the node is registered.
-/
def currentTopology
    (settings : Settings) :
    Program Host Error Topology := do
  match ← (Registration.lookup settings).attempt with
  | .ok (some topology) => return topology
  | .ok none =>
      Registration.start
      return configured settings
  | .error _ => return configured settings

/- Reports on the node. -/
def info
    (settings : Settings) :
    Program Host Csi.NodeInfo.Error Csi.NodeInfo := do
  let topology ← within (currentTopology settings)
  return {
    nodeId := settings.nodeId
    volumeLimit := Csi.nonzero topology.volumeLimit
    topology := some topology.segments }

end NodeAgent

/- The node plugin. -/
def nodeAgent
    (settings : Settings)
    (premium : Pattern) : Csi.Node Host :=
  { identity := identity settings
    features :=
      [.staging, .usage, .conditions] ++
      (if settings.expansionEnabled then [.expand] else [])
    stage := some (Mounting.stage settings premium)
    unstage := some Mounting.unstage
    publish := Mounting.publish
    unpublish := Mounting.unpublish
    usage := some NodeAgent.usage
    expand := some NodeAgent.expand
    info := fun _ => NodeAgent.info settings }

end Service

end BlockVolumes
