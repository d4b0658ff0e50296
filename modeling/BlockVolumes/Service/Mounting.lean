import BlockVolumes.Host
import BlockVolumes.Service.Creation
import BlockVolumes.Service.Device
import BlockVolumes.Service.Error
import BlockVolumes.Settings

/-
  Mounting volumes on a node: from the device to the staging
  path, and from there to the paths of the users.

  Key definitions include:
    * `Service.Mounting.findDevice`
    * `Service.Mounting.stage`
    * `Service.Mounting.unstage`
    * `Service.Mounting.publish`
    * `Service.Mounting.unpublish`
-/

namespace BlockVolumes

namespace Service

namespace Mounting

/- Calls the mounter for a volume. -/
def call
    (operation volumeId : String)
    (request : Mount.Call) :
    Program Host Error request.Result :=
  during .mount operation volumeId (Host.mounter request)

/- Whether something is mounted at a path. -/
def isMounted
    (operation volumeId : String)
    (path : Path) : Program Host Error Bool :=
  call operation volumeId (.isMounted path)

------------------------------------------------------------
-- Devices
------------------------------------------------------------

/- Whether the device of a volume is there. -/
def deviceExists
    (volumeId : String)
    (device : Path) : Program Host Error Bool :=
  call "look up device of" volumeId (.pathExists device)

/-
  Whether the device of a volume shows up. A device that is
  missing mostly needs its events repeated.
-/
def findDevice
    (settle : Duration)
    (volumeId : String)
    (device : Path) : Program Host Error Bool := do
  if ← deviceExists volumeId device then
    return true
  else
    call "trigger udev for" volumeId .triggerDevices
    Host.sleep settle
    deviceExists volumeId device

------------------------------------------------------------
-- Staging
------------------------------------------------------------

/- The key that says that a device must not be formatted. -/
def skipFormatKey : String := "skipFormat"

/- What is to be done to stage a volume. -/
structure StagePlan where
  device : Path
  filesystem : String
  skipFormat : Bool
  flags : List String
  deriving DecidableEq, Repr

/- The disk type that the context of a volume names. -/
def diskTypeOf
    (settings : Settings)
    (context : Dictionary) : String :=
  ((context.find? diskTypeKey).filter (! ·.isEmpty)).getD
    settings.diskType

/- What a request says about the staging of its volume. -/
def planStage
    (settings : Settings)
    (premium : Pattern)
    (request : Csi.NodeStage.Request) : StagePlan :=
  let spec := request.capability.access.mount?
  { device :=
      Device.path premium request.volumeId
        (diskTypeOf settings request.context)
    filesystem :=
      (spec.bind (·.filesystem)).getD settings.filesystem
    skipFormat := request.context.find? skipFormatKey == some "true"
    flags := (spec.map (·.flags)).getD [] }

/- Whether a device holds data. -/
def isFormatted
    (volumeId : String)
    (device : Path) : Program Host Error Bool :=
  call "check format of" volumeId (.isFormatted device)

/- Makes a filesystem on a device that holds no data. -/
def formatIfBlank
    (volumeId : String)
    (plan : StagePlan) : Program Host Error Unit := do
  if plan.skipFormat then
    return ()
  else if ← isFormatted volumeId plan.device then
    return ()
  else
    call "format device of" volumeId
      (.format plan.device plan.filesystem [])

/- Mounts a device at a staging path unless it is in use. -/
def mountStage
    (volumeId : String)
    (staging : Path)
    (plan : StagePlan) : Program Host Error Unit := do
  formatIfBlank volumeId plan
  if ← isMounted "check staging mount of" volumeId staging then
    return ()
  else
    call "mount staging path of" volumeId
      (.mount (some plan.device) staging plan.filesystem
        plan.flags [])

/- Stages a volume. -/
def stage
    (settings : Settings)
    (premium : Pattern)
    (request : Csi.NodeStage.Request) :
    Program Host Csi.NodeStage.Error Unit := do
  checked request.capability.check
  let volumeId := request.volumeId
  let plan := planStage settings premium request
  if ← within (findDevice settings.deviceSettle volumeId
      plan.device) then
    Host.exclusively
      (within (mountStage volumeId request.stagingPath plan))
  else
    throw (.volumeMissing
      ("device of volume " ++ volumeId ++
        " did not appear under " ++ Device.directory.text))

/- Ends the mount at a path, if there is one. -/
def unmountIfMounted
    (check unmount volumeId : String)
    (path : Path) : Program Host Error Unit := do
  if ← isMounted check volumeId path then
    call unmount volumeId (.unmount path none)
  else
    return ()

/- Unstages a volume. -/
def unstage
    (request : Csi.NodeUnstage.Request) :
    Program Host Csi.NodeUnstage.Error Unit :=
  Host.exclusively
    (within (unmountIfMounted "check staging mount of"
      "unmount staging path of" request.volumeId
      request.stagingPath))

------------------------------------------------------------
-- Publishing
------------------------------------------------------------

/- The options of the mount at a target path. -/
def publishOptions
    (request : Csi.NodePublish.Request) : List String :=
  ["bind"] ++ (if request.readonly then ["ro"] else []) ++
    ((request.capability.access.mount?.map (·.flags)).getD [])

/- Makes a target path and mounts the staging path there. -/
def mountTarget
    (request : Csi.NodePublish.Request)
    (staging : Path) : Program Host Error Unit := do
  let volumeId := request.volumeId
  let target := request.targetPath
  if ← isMounted "check target mount of" volumeId target then
    return ()
  else
    let made ← Host.makeDirectories target
    during (fun failure => .mount (.other failure))
      "create target path of" volumeId (Program.ofExcept made)
    call "bind mount target path of" volumeId
      (.mount (some staging) target "" (publishOptions request) [])

/- Publishes a volume that has been staged. -/
def publish
    (request : Csi.NodePublish.Request) :
    Program Host Csi.NodePublish.Error Unit := do
  match request.stagingPath with
  | none =>
      throw (.notStaged
        ("volume " ++ request.volumeId ++
          " must be staged before it is published"))
  | some staging =>
      checked request.capability.check
      within (mountTarget request staging)

/-
  Unpublishes a volume. It does not matter if the target path
  cannot be removed.
-/
def unpublish
    (request : Csi.NodeUnpublish.Request) :
    Program Host Csi.NodeUnpublish.Error Unit := do
  within (unmountIfMounted "check target mount of"
    "unmount target path of" request.volumeId request.targetPath)
  let _ ← Host.removeDirectory request.targetPath
  return ()

end Mounting

end Service

end BlockVolumes
