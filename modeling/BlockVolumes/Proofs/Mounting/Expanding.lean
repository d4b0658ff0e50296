import BlockVolumes.Service.NodeAgent

/-
  The parts of growing a filesystem on a node: what the request
  says is checked, the device behind its path is looked up, and
  the filesystem on that device is made larger.

  Key definitions include:
    * `Service.NodeAgent.checkStated`
    * `Service.NodeAgent.resizeOn`
    * `Service.NodeAgent.growOn`
    * `Service.NodeAgent.growMounted`

  Key theorems include:
    * `Service.NodeAgent.expand_eq`
-/

namespace BlockVolumes

namespace Service

namespace NodeAgent

open Csi (NodeExpand.Error NodeExpand.Request)

/- Accepts a capability, which need not be stated. -/
def checkStated :
    Option Csi.Capability → Except Rpc.Status Unit
  | some capability => capability.check
  | none => .ok ()

/- Makes the filesystem on a device as large as the device. -/
def resizeOn
    (request : NodeExpand.Request)
    (device : Path)
    (filesystem : Option String) :
    Program Host NodeExpand.Error (Option Nat) :=
  (within (Mounting.call "resize filesystem of" request.volumeId
    (.resize filesystem device request.volumePath))).bind
      fun _ => .done (request.range.bind (·.required?))

/-
  Grows the stated filesystem, else the one that the device
  holds.
-/
def growOn
    (request : NodeExpand.Request)
    (device : Path) :
    Program Host NodeExpand.Error (Option Nat) :=
  match statedFilesystem request with
  | some filesystem => resizeOn request device (some filesystem)
  | none =>
      (within (detectFilesystem request.volumeId device)).bind
        (resizeOn request device)

/- Goes on with the device that is mounted, if there is one. -/
def growMounted
    (request : NodeExpand.Request) :
    Option (Path × Nat) →
      Program Host NodeExpand.Error (Option Nat)
  | none =>
      .failed (.volumeMissing
        ("nothing is mounted at " ++ request.volumePath.text))
  | some (device, _) => growOn request device

/- The parts make up the whole. -/
theorem expand_eq
    (request : NodeExpand.Request) :
    expand request =
      (checked (checkStated request.capability)).bind fun _ =>
        (within (deviceMountedAt request.volumeId
          request.volumePath)).bind (growMounted request) := by
  unfold expand
  cases request.capability with
  | none => rfl
  | some capability => rfl

end NodeAgent

end Service

end BlockVolumes
