import BlockVolumes.Dictionary

/-
  Volumes as the backend holds them: their status, which
  requests a status permits, and where they are attached.

  Key definitions include:
    * `Disk.Status`
    * `Disk.Action`
    * `Disk.Status.permits`
    * `Disk`
    * `Disk.attachment?`
-/

namespace BlockVolumes

namespace Disk

------------------------------------------------------------
-- Status
------------------------------------------------------------

/- What the backend is doing with a volume. -/
inductive Status where
  | creating
  | available
  | attaching
  | inUse
  | detaching
  | extending
  | deleting
  | error
  deriving DecidableEq, Repr

namespace Status

/- The name that the backend uses. -/
def name : Status → String
  | creating => "creating"
  | available => "available"
  | attaching => "attaching"
  | inUse => "in-use"
  | detaching => "detaching"
  | extending => "extending"
  | deleting => "deleting"
  | error => "error"

/- The name that reports use. -/
def label : Status → String
  | creating => "Creating"
  | available => "Available"
  | attaching => "Attaching"
  | inUse => "InUse"
  | detaching => "Detaching"
  | extending => "Extending"
  | deleting => "Deleting"
  | error => "Error"

/- The status of a name; two of them have a second name. -/
def parse? : String → Option Status
  | "creating" => some creating
  | "available" => some available
  | "attaching" => some attaching
  | "in-use" => some inUse
  | "inuse" => some inUse
  | "detaching" => some detaching
  | "extending" => some extending
  | "deleting" => some deleting
  | "error" => some error
  | "failed" => some error
  | _ => none

/- The complaint about a name that is no status. -/
def unknownMessage
    (raw : String) : String :=
  "Unknown volume status '" ++ raw ++ "'"

theorem parse?_name
    (status : Status) :
    parse? status.name = some status := by
  cases status <;> rfl

end Status

------------------------------------------------------------
-- Actions
------------------------------------------------------------

/- The requests that change an existing volume. -/
inductive Action where
  | attach
  | detach
  | expand
  | delete
  deriving DecidableEq, Repr

/- The name of an action in messages. -/
def Action.label : Action → String
  | attach => "Attach"
  | detach => "Detach"
  | expand => "Expand"
  | delete => "Delete"

/-
  Whether the backend accepts an action on a volume with the
  status.
-/
def Status.permits : Status → Action → Bool
  | available, .attach => true
  | inUse, .detach => true
  | attaching, .detach => true
  | available, .expand => true
  | inUse, .expand => true
  | available, .delete => true
  | error, .delete => true
  | _, _ => false

------------------------------------------------------------
-- Attachments
------------------------------------------------------------

/- An instance that uses a volume, and its device there. -/
structure Attachment where
  instanceId : String
  mountPoint : String
  deriving DecidableEq, Repr

end Disk

------------------------------------------------------------
-- Volumes
------------------------------------------------------------

/-
  A volume of the backend. The size is in GiB, the time of
  creation in nanoseconds.
-/
structure Disk where
  id : String
  name : String
  size : Nat
  status : Disk.Status
  diskType : String
  zone : String
  attachments : List Disk.Attachment
  createdAt : Int
  tags : Dictionary
  deriving DecidableEq, Repr

namespace Disk

/- The tag that names the plugin which created a volume. -/
def creatorTag : String := "created-by"

/- The first attachment to an instance. -/
def attachment?
    (disk : Disk)
    (instanceId : String) : Option Attachment :=
  disk.attachments.find? fun a => a.instanceId == instanceId

/- Whether a plugin of this name created the volume. -/
def createdBy
    (disk : Disk)
    (creator : String) : Bool :=
  disk.tags.find? creatorTag == some creator

/- The instances that use the volume. -/
def attachedTo
    (disk : Disk) : List String :=
  disk.attachments.map (·.instanceId)

end Disk

end BlockVolumes
