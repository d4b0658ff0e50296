import BlockVolumes.Backend
import BlockVolumes.Capacity
import BlockVolumes.Cluster
import BlockVolumes.Csi.Attachment
import BlockVolumes.Csi.Growth
import BlockVolumes.Csi.Inspection
import BlockVolumes.Csi.NodeReport
import BlockVolumes.Csi.Provisioning
import BlockVolumes.Csi.Staging
import BlockVolumes.Mount.Error
import BlockVolumes.Parameters
import BlockVolumes.Program
import BlockVolumes.Time.Duration

/-
  How the services fail inside. An error keeps the operation
  and what it worked on until it becomes the status of a call.

  Key definitions include:
    * `Service.Error`
    * `Service.Error.message`
    * `Service.Error.isNotFound`
    * `Service.Error.status`
    * `Service.during`
-/

namespace BlockVolumes

namespace Service

open Rpc (Status)

------------------------------------------------------------
-- Errors
------------------------------------------------------------

/- The failure of something that the services work with. -/
inductive Cause where
  | backend (error : Backend.Error)
  | cluster (error : Cluster.Error)
  | mount (error : Mount.Error)
  deriving DecidableEq, Repr

namespace Cause

/- The wording of a cause. -/
def message : Cause → String
  | backend error => error.message
  | cluster error => error.message
  | mount error => error.message

def isNotFound : Cause → Bool
  | backend error => error.isNotFound
  | cluster error => error.isNotFound
  | mount error => error.isNotFound

end Cause

/-
  A failed operation, a refused request, a wait that took too
  long, a state of a volume in which nothing can be done, or a
  pause between attempts that is no duration any more.
-/
inductive Error where
  | during (operation subject : String) (cause : Cause)
  | parameters (fault : Parameters.Fault)
  | capacity (refusal : Capacity.Refusal)
  | timeout (volumeId expected : String) (elapsed : Duration)
  | refused
      (volumeId : String)
      (status : Disk.Status)
      (action : Disk.Action)
  | duplicates (name : String) (count : Nat)
  | inconsistent (volumeId reason : String)
  | noZone (storageClass : String)
  | pauseTooLong
  deriving DecidableEq, Repr

namespace Error

/- The wording of an error. -/
def message : Error → String
  | during operation subject cause =>
      operation ++ " " ++ subject ++ ": " ++ cause.message
  | parameters fault => fault.message
  | capacity refusal => refusal.message
  | timeout volumeId expected elapsed =>
      "Timed out after " ++ elapsed.describe ++
        " waiting for volume " ++ volumeId ++ " to become " ++
        expected
  | refused volumeId status action =>
      "Volume " ++ volumeId ++ " is " ++ status.name ++
        ", refusing to " ++ action.label ++ " it"
  | duplicates name count =>
      "Found " ++ toString count ++ " volumes named " ++ name ++
        " that need manual cleanup"
  | inconsistent volumeId reason =>
      "Volume " ++ volumeId ++ " is in an inconsistent state: " ++
        reason
  | noZone storageClass =>
      "No zone available for storage class " ++ storageClass
  | pauseTooLong => "Pause between attempts is too long"

def isNotFound : Error → Bool
  | during _ _ cause => cause.isNotFound
  | _ => false

/- The code under which an error is answered. -/
def code : Error → Rpc.Code
  | parameters fault => fault.status.code
  | capacity refusal => refusal.code
  | refused _ _ _ => .failedPrecondition
  | error => if error.isNotFound then .notFound else .internal

/- The answer to a call that failed by the error. -/
def status
    (error : Error) : Status :=
  ⟨error.code, error.message⟩

end Error

------------------------------------------------------------
-- Raising Errors
------------------------------------------------------------

variable {I : Interface}
variable {α : Type}

/-
  Says during which operation, and on what, a program failed.
-/
def during
    {ε : Type}
    (cause : ε → Cause)
    (operation subject : String)
    (program : Program I ε α) : Program I Error α :=
  program.mapError fun e => .during operation subject (cause e)

/-
  The errors of procedures into which any status can be put.
-/
class RpcError
    (ε : Type) where
  ofStatus : Status → ε

instance : RpcError Csi.CreateVolume.Error := ⟨.other⟩
instance : RpcError Csi.DeleteVolume.Error := ⟨.other⟩
instance : RpcError Csi.PublishVolume.Error := ⟨.other⟩
instance : RpcError Csi.UnpublishVolume.Error := ⟨.other⟩
instance : RpcError Csi.ValidateCapabilities.Error := ⟨.other⟩
instance : RpcError Csi.ListVolumes.Error := ⟨.other⟩
instance : RpcError Csi.ExpandVolume.Error := ⟨.other⟩
instance : RpcError Csi.GetVolume.Error := ⟨.other⟩
instance : RpcError Csi.NodeStage.Error := ⟨.other⟩
instance : RpcError Csi.NodeUnstage.Error := ⟨.other⟩
instance : RpcError Csi.NodePublish.Error := ⟨.other⟩
instance : RpcError Csi.NodeUnpublish.Error := ⟨.other⟩
instance : RpcError Csi.VolumeStats.Error := ⟨.other⟩
instance : RpcError Csi.NodeExpand.Error := ⟨.other⟩
instance : RpcError Csi.NodeInfo.Error := ⟨.other⟩

/- An error of the services as the error of a procedure. -/
def raise
    {ε : Type}
    [RpcError ε]
    (error : Error) : ε :=
  RpcError.ofStatus error.status

/- A part of a procedure that fails by errors of the services. -/
def within
    {ε : Type}
    [RpcError ε]
    (program : Program I Error α) : Program I ε α :=
  program.mapError raise

/- A check of a procedure that fails by a status. -/
def checked
    {ε : Type}
    [RpcError ε]
    (outcome : Except Status α) : Program I ε α :=
  match outcome with
  | .ok a => .done a
  | .error status => .failed (RpcError.ofStatus status)

end Service

end BlockVolumes
