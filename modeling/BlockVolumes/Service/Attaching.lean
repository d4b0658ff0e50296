import BlockVolumes.Csi.Attachment
import BlockVolumes.Service.Wait

/-
  Attaching volumes to nodes and detaching them.

  Key definitions include:
    * `Service.Attaching.assess`
    * `Service.Attaching.checkLimits`
    * `Service.Attaching.attach`
    * `Service.Attaching.publish`
    * `Service.Attaching.unpublish`
-/

namespace BlockVolumes

namespace Service

namespace Attaching

open Csi (PublishVolume.Error UnpublishVolume.Error)

/- The key of the device in the answer to a publish request. -/
def deviceKey : String := "mountPoint"

/- The answer for an attachment. -/
def describe
    (attachment : Disk.Attachment) : Dictionary :=
  [(deviceKey, attachment.mountPoint)]

------------------------------------------------------------
-- Publishing
------------------------------------------------------------

/- Gets the volume of a request. -/
def getVolume
    {ε : Type}
    [RpcError ε]
    (missing : String → ε)
    (volumeId : String) : Program Host ε Disk := do
  match ← Host.askBackend (.get volumeId) with
  | .ok disk => return disk
  | .error error =>
      if error.isNotFound then throw (missing volumeId)
      else
        throw (raise (.during "get volume" volumeId
          (.backend error)))

/- What is to be done to publish a volume on a node. -/
inductive Situation where
  -- It is in use there.
  | published (attachment : Disk.Attachment)
  -- It is in use, but nowhere.
  | nowhere
  -- It is attached elsewhere and can be detached.
  | elsewhere (instances : List String)
  -- It is on its way to the node.
  | underway
  -- It has to be attached.
  | toAttach
  deriving DecidableEq, Repr

/- What is to be done to publish a volume on a node. -/
def assess
    (disk : Disk)
    (nodeId : String) : Situation :=
  match disk.attachment? nodeId with
  | some attachment =>
      if disk.status = .inUse then .published attachment
      else if disk.status = .attaching then .underway
      else .toAttach
  | none =>
      if disk.attachments.isEmpty then
        if disk.status = .inUse then .nowhere else .toAttach
      else if disk.status.permits .detach then
        .elsewhere disk.attachedTo
      else
        .toAttach

/- Detaches a volume from one instance after the other. -/
def detachAll
    (volumeId : String) :
    List String → Program Host Error Unit
  | [] => return ()
  | instanceId :: instances => do
      during .backend "detach stale attachment of" volumeId
        (Host.backend (.detach volumeId instanceId))
      detachAll volumeId instances

/- What limits the attachments to a node. -/
structure Limits where
  check : Backend.AttachCheck
  attached : List String
  deriving DecidableEq, Repr

/-
  Asks the backend for the limits of a node. The plugin makes
  the two calls side by side and takes the first failure. Here
  they are made one after the other, and the second one is left
  out where the first one fails. Both of them only look.
-/
def getLimits
    (nodeId diskType : String) :
    Program Host PublishVolume.Error Limits := do
  let limits ←
    (do
      let check ← Host.backend (.checkAttach nodeId diskType)
      let attached ← Host.backend (.attachedVolumes nodeId)
      return ⟨check, attached⟩
      : Program Host Backend.Error Limits).attempt
  match limits with
  | .ok limits => return limits
  | .error error =>
      if error.isNotFound then throw (.nodeMissing nodeId)
      else
        throw (raise (.during "check attach limits of" nodeId
          (.backend error)))

/- Accepts a volume that a node can take in addition. -/
def checkLimits
    (nodeId : String)
    (disk : Disk)
    (volumeId : String)
    (limits : Limits) : Except PublishVolume.Error Unit :=
  if !limits.check.supported then
    .error (.volumeLimit
      ("node " ++ nodeId ++ " cannot attach volumes of type " ++
        disk.diskType))
  else if !limits.attached.contains volumeId ∧
      limits.check.volumeLimit ≤ limits.attached.length then
    .error (.volumeLimit
      ("node " ++ nodeId ++ " already has " ++
        toString limits.attached.length ++ " of " ++
        toString limits.check.volumeLimit ++ " volumes attached"))
  else .ok ()

/-
  Attaches a volume, once it is available, and gives the
  backend some time before it is asked about it.
-/
def attach
    (settings : Settings)
    (volumeId nodeId : String)
    (disk : Disk) : Program Host Error Unit := do
  let disk ←
    if disk.status = .available then pure disk
    else
      Wait.forStatus settings.polling volumeId .available
  if disk.status.permits .attach then
    during .backend "attach volume" volumeId
      (Host.backend (.attach volumeId nodeId))
    Host.sleep settings.attachSettle
  else
    throw (.refused volumeId disk.status .attach)

/- Waits until a volume is in use on a node. -/
def awaitAttachment
    (settings : Settings)
    (volumeId nodeId : String) :
    Program Host PublishVolume.Error Dictionary := do
  let disk ←
    within (Wait.forStatus settings.polling volumeId .inUse)
  match disk.attachment? nodeId with
  | some attachment => return describe attachment
  | none =>
      throw (.publishedElsewhere
        ("volume " ++ volumeId ++ " was attached to " ++
          Text.quoteList disk.attachedTo ++ " instead of " ++
          nodeId))

/- Attaches a volume to a node, unless that was done before. -/
def publish
    (settings : Settings)
    (request : Csi.PublishVolume.Request) :
    Program Host PublishVolume.Error Dictionary := do
  let volumeId := request.volumeId
  let nodeId := request.nodeId
  if request.readonly then
    throw (.unsupported "Read only publish is not supported")
  checked request.capability.check
  let disk ← getVolume PublishVolume.Error.volumeMissing volumeId
  match assess disk nodeId with
  | .published attachment => return describe attachment
  | .nowhere =>
      throw (raise
        (.inconsistent volumeId "in use without any attachment"))
  | .elsewhere instances =>
      within (detachAll volumeId instances)
      throw (.publishedElsewhere
        ("volume " ++ volumeId ++ " is attached to " ++
          ", ".intercalate instances ++
          ", it is being detached, retry once it is available"))
  | .underway =>
      let limits ← getLimits nodeId disk.diskType
      Program.ofExcept (checkLimits nodeId disk volumeId limits)
      awaitAttachment settings volumeId nodeId
  | .toAttach =>
      let limits ← getLimits nodeId disk.diskType
      Program.ofExcept (checkLimits nodeId disk volumeId limits)
      within (attach settings volumeId nodeId disk)
      awaitAttachment settings volumeId nodeId

------------------------------------------------------------
-- Unpublishing
------------------------------------------------------------

/- Whether a status shows that a detachment has come to an end. -/
def isDetached
    (disk : Disk) : Bool :=
  disk.status != .inUse && disk.status != .detaching

/-
  Detaches a volume that is in use on a node, and waits until
  that is done. Any other volume is left alone.
-/
def unpublishFrom
    (settings : Settings)
    (volumeId nodeId : String)
    (disk : Disk) :
    Program Host UnpublishVolume.Error Unit :=
  if disk.status ≠ .inUse then
    return ()
  else if disk.attachments.isEmpty then
    throw (.inconsistent
      ("volume " ++ volumeId ++ " is in use without any attachment"))
  else if (disk.attachment? nodeId).isNone then
    return ()
  else do
    within (during .backend "detach volume" volumeId
      (Host.backend (.detach volumeId nodeId)))
    let _ ←
      within (Wait.untilMet settings.polling volumeId "detached"
        isDetached)
    return ()

/- Detaches a volume from a node. -/
def unpublish
    (settings : Settings)
    (request : Csi.UnpublishVolume.Request) :
    Program Host UnpublishVolume.Error Unit := do
  let volumeId := request.volumeId
  match ← Host.askBackend (.get volumeId) with
  | .ok disk =>
      unpublishFrom settings volumeId request.nodeId disk
  | .error error =>
      if error.isNotFound then return ()
      else
        throw (raise (.during "get volume" volumeId
          (.backend error)))

end Attaching

end Service

end BlockVolumes
