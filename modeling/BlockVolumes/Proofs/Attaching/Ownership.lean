import BlockVolumes.Proofs.Memory.Backend
import BlockVolumes.Rpc.Status
import Mathlib.Logic.Function.Basic

/-
  A machine in which every volume has at most one owner, and
  the backend in memory as a representation of its states.

  Key definitions include:
    * `Disk.heldBy`
    * `Disk.Tidy`
    * `Memory.Backend.assign`
    * `Memory.Backend.Plain`
    * `Ownership.Move`
    * `Ownership.step`
    * `Ownership.run`

  Key theorems include:
    * `Memory.Backend.assign_ownersOf`
    * `Memory.Backend.Plain.answer_attach`
    * `Memory.Backend.Plain.answer_detach`
-/

namespace BlockVolumes

------------------------------------------------------------
-- Volumes with an Owner
------------------------------------------------------------

namespace Disk

/- A volume as it is when it has the owner, or none. -/
def heldBy
    (owner : Option Attachment)
    (disk : Disk) : Disk :=
  { disk with
    status := if owner.isSome then .inUse else .available
    attachments := owner.toList }

/-
  Whether a volume is available without any attachment, or in
  use with exactly one.
-/
def Tidy
    (disk : Disk) : Prop :=
  (disk.status = .available ∧ disk.attachments = []) ∨
    (disk.status = .inUse ∧ disk.attachments.length = 1)

instance
    (disk : Disk) :
    Decidable disk.Tidy := by
  unfold Tidy
  infer_instance

variable {disk : Disk}
variable {owner : Option Attachment}

@[simp] theorem heldBy_id :
    (disk.heldBy owner).id = disk.id :=
  rfl

/- Whoever has it, a volume with an owner or none is tidy. -/
theorem tidy_heldBy :
    (disk.heldBy owner).Tidy := by
  cases owner with
  | none => exact Or.inl ⟨rfl, rfl⟩
  | some attachment => exact Or.inr ⟨rfl, rfl⟩

/- A tidy volume has the owner that is attached, if any. -/
theorem Tidy.heldBy_owner
    (h : disk.Tidy) :
    disk.heldBy disk.attachments.head? = disk := by
  rcases disk with ⟨id, name, size, status, diskType, zone,
    attachments, createdAt, tags⟩
  rcases h with ⟨hStatus, hAttachments⟩ | ⟨hStatus, hAttachments⟩
  · dsimp only at hStatus hAttachments
    subst hStatus hAttachments
    rfl
  · dsimp only at hStatus hAttachments
    rcases List.length_eq_one_iff.mp hAttachments with
      ⟨attachment, hOne⟩
    subst hStatus hOne
    rfl

end Disk

------------------------------------------------------------
-- The Machine
------------------------------------------------------------

namespace Ownership

/- The owner of each volume, and its device there. -/
abbrev Owners := String → Option Disk.Attachment

/- The moves of the machine. -/
inductive Move where
  | publish (volumeId nodeId : String)
  | unpublish (volumeId nodeId : String)
  deriving DecidableEq, Repr

/- The replies of the machine. -/
inductive Reply where
  | published (mountPoint : String)
  | unpublished
  | refused (code : Rpc.Code)
  deriving DecidableEq, Repr

/- The device under which every volume is attached. -/
def device : String := "/dev/vdb"

/-
  Whether an instance supports a type, and is below its limit
  or lists the volume as attached already.
-/
def admits
    (inst : Memory.Instance)
    (volumeId diskType : String) : Bool :=
  inst.info.diskTypes.contains diskType &&
    (inst.attached.contains volumeId ||
      decide (inst.attached.length < inst.info.volumeLimit))

/- Why a node cannot become the owner of a volume, if so. -/
def refusal?
    (backend : Memory.Backend)
    (volumeId nodeId : String) : Option Rpc.Code :=
  match backend.instance? nodeId, backend.disk? volumeId with
  | some inst, some disk =>
      if admits inst volumeId disk.diskType then none
      else some .resourceExhausted
  | _, _ => some .notFound

/-
  A step of the machine. Which nodes can take which volumes is
  read from a backend.
-/
def step
    (backend : Memory.Backend)
    (owners : Owners) : Move → Reply × Owners
  | .publish volumeId nodeId =>
      match owners volumeId with
      | some owner =>
          if owner.instanceId = nodeId then
            (.published owner.mountPoint, owners)
          else
            (.refused .failedPrecondition,
              Function.update owners volumeId none)
      | none =>
          match refusal? backend volumeId nodeId with
          | some code => (.refused code, owners)
          | none =>
              (.published device,
                Function.update owners volumeId
                  (some ⟨nodeId, device⟩))
  | .unpublish volumeId nodeId =>
      if (owners volumeId).any (·.instanceId = nodeId) then
        (.unpublished, Function.update owners volumeId none)
      else
        (.unpublished, owners)

/- The replies to some moves, and the owners after them. -/
def run
    (backend : Memory.Backend) :
    Owners → List Move → List Reply × Owners
  | owners, [] => ([], owners)
  | owners, move :: moves =>
      let (reply, owners) := step backend owners move
      let (replies, owners) := run backend owners moves
      (reply :: replies, owners)

end Ownership

------------------------------------------------------------
-- Backends as States of the Machine
------------------------------------------------------------

namespace Memory.Backend

open BlockVolumes.Backend (Call AttachCheck)
open Ownership (Owners device)

/- The backend with its volumes given to the owners. -/
def assign
    (owners : Owners)
    (backend : Backend) : Backend :=
  { backend with
    disks := backend.disks.map fun disk =>
      disk.heldBy (owners disk.id) }

/- The owners that the volumes of a backend have. -/
def ownersOf
    (backend : Backend) : Owners :=
  fun id => (backend.disk? id).bind (·.attachments.head?)

/-
  A backend in which nothing is scripted: attaching a volume
  brings it into use on the one instance, and detaching makes
  it available.
-/
structure Plain
    (backend : Backend) : Prop where
  undisturbed : backend.Undisturbed
  unscripted : Scripts.Spent backend.sights
  ordered : backend.Ordered
  attach : backend.transitions.attach = .inUse
  attachTo : backend.transitions.attachTo = none
  detach : backend.transitions.detach = .available

variable {backend : Backend}
variable {owners : Owners}
variable {id : String}
variable {disk : Disk}

theorem assign_disk? :
    (backend.assign owners).disk? id =
      (backend.disk? id).map (Disk.heldBy (owners id)) := by
  unfold disk? assign
  rw [List.find?_map]
  cases hFind :
      backend.disks.find?
        ((fun disk : Disk => disk.id == id) ∘
          fun disk => disk.heldBy (owners disk.id)) with
  | none =>
      have hNone :
          backend.disks.find? (fun disk => disk.id == id) =
            none := hFind
      rw [hNone]
      rfl
  | some disk =>
      have hSome :
          backend.disks.find? (fun disk => disk.id == id) =
            some disk := hFind
      have hId : disk.id = id := (disk?_eq_some hSome).2
      rw [hSome, ← hId]
      rfl

/- Tidy volumes are as their own owners leave them. -/
theorem assign_ownersOf
    (hOrdered : backend.Ordered)
    (hTidy : ∀ disk ∈ backend.disks, disk.Tidy) :
    backend.assign backend.ownersOf = backend := by
  have hSame :
      backend.disks.map
          (fun disk => disk.heldBy (backend.ownersOf disk.id)) =
        backend.disks := by
    rw [List.map_congr_left (g := id), List.map_id]
    intro disk hDisk
    rw [ownersOf, hOrdered.disk?_of_mem hDisk]
    exact (hTidy disk hDisk).heldBy_owner
  rw [assign, hSame]

theorem Ordered.assign
    (h : backend.Ordered) :
    (backend.assign owners).Ordered :=
  List.pairwise_map.mpr h

/- A change of one volume may be a change of its owner. -/
theorem Ordered.change_assign
    (h : backend.Ordered)
    (hDisk : backend.disk? id = some disk)
    {f : Disk → Disk}
    {owner : Option Disk.Attachment}
    (hOwner :
      f (disk.heldBy (owners id)) = disk.heldBy owner) :
    (backend.assign owners).change id f =
      (.ok (),
        backend.assign (Function.update owners id owner)) := by
  rcases disk?_eq_some hDisk with ⟨hMem, hId⟩
  have hFound :
      (backend.assign owners).disk? id =
        some (disk.heldBy (owners id)) := by
    rw [assign_disk?, hDisk]
    rfl
  have hThere :
      ∃ old ∈ (backend.assign owners).disks,
        old.id = (disk.heldBy owner).id :=
    ⟨_, (disk?_eq_some hFound).1, rfl⟩
  have hDisks :
      ((backend.assign owners).disks.map fun old =>
          if old.id = (disk.heldBy owner).id then
            disk.heldBy owner
          else old) =
        (backend.assign (Function.update owners id owner)).disks := by
    rw [Backend.assign, Backend.assign, List.map_map]
    refine List.map_congr_left fun old hOld => ?_
    change
      (if old.id = disk.id then disk.heldBy owner
        else old.heldBy (owners old.id)) =
        old.heldBy (Function.update owners id owner old.id)
    by_cases hSame : old.id = disk.id
    · have hEq : old = disk :=
        List.inj_on_of_nodup_map h.nodup hOld hMem hSame
      rw [if_pos hSame, hEq, hId, Function.update_self]
    · have hOther : old.id ≠ id := by
        rw [← hId]
        exact hSame
      rw [if_neg hSame, Function.update_of_ne hOther]
  rw [Backend.change, hFound]
  dsimp only
  rw [hOwner, h.assign.putDisk_eq_map hThere, hDisks]
  rfl

------------------------------------------------------------
-- Calls
------------------------------------------------------------

theorem Plain.answer_get
    (h : backend.Plain)
    (hDisk : backend.disk? id = some disk) :
    (backend.assign owners).answer (.get id) =
      (.ok (disk.heldBy (owners id)), backend.assign owners) := by
  have hUndisturbed : (backend.assign owners).Undisturbed :=
    h.undisturbed
  have hSight :
      Scripts.take id (backend.assign owners).sights =
        (none, (backend.assign owners).sights) :=
    Scripts.take_of_spent h.unscripted id
  rw [answer_eq_perform hUndisturbed, perform, get, hSight]
  dsimp only
  rw [lookUp, assign_disk?, hDisk]
  rfl

/- The instance becomes the owner. -/
theorem Plain.answer_attach
    (h : backend.Plain)
    (hDisk : backend.disk? id = some disk)
    (nodeId : String) :
    (backend.assign owners).answer (.attach id nodeId) =
      (.ok (),
        backend.assign
          (Function.update owners id (some ⟨nodeId, device⟩))) := by
  have hUndisturbed : (backend.assign owners).Undisturbed :=
    h.undisturbed
  rw [answer_eq_perform hUndisturbed, perform, Backend.attach]
  refine h.ordered.change_assign hDisk ?_
  have hStatus : (backend.assign owners).transitions.attach = .inUse :=
    h.attach
  have hOne :
      (backend.assign owners).attachmentsAfter nodeId =
        [⟨nodeId, device⟩] := by
    have hNone :
        (backend.assign owners).transitions.attachTo = none :=
      h.attachTo
    rw [attachmentsAfter, hNone]
    rfl
  rw [hStatus, hOne]
  rfl

/- Whoever has the volume does not have it any more. -/
theorem Plain.answer_detach
    (h : backend.Plain)
    (hDisk : backend.disk? id = some disk)
    (nodeId : String) :
    (backend.assign owners).answer (.detach id nodeId) =
      (.ok (),
        backend.assign (Function.update owners id none)) := by
  have hUndisturbed : (backend.assign owners).Undisturbed :=
    h.undisturbed
  rw [answer_eq_perform hUndisturbed, perform, Backend.detach]
  refine h.ordered.change_assign hDisk ?_
  have hStatus :
      (backend.assign owners).transitions.detach = .available :=
    h.detach
  rw [hStatus]
  rfl

/- The limits of an instance do not depend on the owners. -/
theorem Plain.answer_checkAttach
    (h : backend.Plain)
    (nodeId diskType : String) :
    (backend.assign owners).answer (.checkAttach nodeId diskType) =
      ((backend.requireInstance nodeId).map fun inst =>
        (⟨inst.info.diskTypes.contains diskType,
          inst.info.volumeLimit⟩ : AttachCheck),
        backend.assign owners) := by
  have hUndisturbed : (backend.assign owners).Undisturbed :=
    h.undisturbed
  rw [answer_eq_perform hUndisturbed]
  rfl

theorem Plain.answer_attachedVolumes
    (h : backend.Plain)
    (nodeId : String) :
    (backend.assign owners).answer (.attachedVolumes nodeId) =
      ((backend.requireInstance nodeId).map (·.attached),
        backend.assign owners) := by
  have hUndisturbed : (backend.assign owners).Undisturbed :=
    h.undisturbed
  rw [answer_eq_perform hUndisturbed]
  rfl

end Memory.Backend

end BlockVolumes
