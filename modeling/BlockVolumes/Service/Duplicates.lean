import BlockVolumes.Host
import BlockVolumes.Service.Error
import BlockVolumes.Settings

/-
  Several volumes of one name. They come from repeated requests
  of which more than one took effect, and all but one of them
  are removed if they are young copies of the wanted volume.

  Key definitions include:
    * `Service.Duplicates.Removable`
    * `Service.Duplicates.Plan`
    * `Service.Duplicates.plan`
    * `Service.Duplicates.resolve`
-/

namespace BlockVolumes

namespace Service

namespace Duplicates

------------------------------------------------------------
-- Which Volumes Are Removed
------------------------------------------------------------

/-
  A volume is young if it was created within the window, or
  after the time that the clock shows.
-/
def Young
    (window : Duration)
    (now : Int)
    (disk : Disk) : Prop :=
  now - disk.createdAt < (window.nanoseconds : Int)

instance
    (window : Duration)
    (now : Int)
    (disk : Disk) :
    Decidable (Young window now disk) := by
  unfold Young
  infer_instance

/-
  A volume may be removed if this plugin created it not long
  ago with the wanted size.
-/
def Removable
    (settings : Settings)
    (size : Nat)
    (now : Int)
    (disk : Disk) : Prop :=
  disk.createdBy settings.name = true ∧ disk.size = size ∧
    Young settings.duplicateWindow now disk

instance
    (settings : Settings)
    (size : Nat)
    (now : Int)
    (disk : Disk) :
    Decidable (Removable settings size now disk) := by
  unfold Removable
  infer_instance

/- The volumes from the oldest to the youngest. -/
def byAge
    (disks : List Disk) : List Disk :=
  disks.mergeSort fun a b => decide (a.createdAt ≤ b.createdAt)

/- The volume that stays and those that are removed, in order. -/
structure Plan where
  keep : Disk
  remove : List Disk
  deriving DecidableEq, Repr

/-
  The volume that stays: the only one that may not be removed,
  else the oldest. There is none where two may not be removed.
-/
def survivor?
    (mayRemove : Disk → Bool)
    (disks : List Disk) : Option Plan :=
  match disks.filter (! mayRemove ·), disks.filter mayRemove with
  | [], [] => none
  | [], oldest :: others => some ⟨oldest, others⟩
  | [keep], others => some ⟨keep, others⟩
  | _ :: _ :: _, _ => none

/-
  The plan for the volumes of a name. There is none, and the
  reason is given, where volumes cannot be told apart, where
  the one to stay is broken, or where another one cannot be
  deleted yet.
-/
def plan
    (settings : Settings)
    (name : String)
    (size : Nat)
    (now : Int)
    (disks : List Disk) : Except Error Plan :=
  let mayRemove := fun disk =>
    decide (Removable settings size now disk)
  match survivor? mayRemove (byAge disks) with
  | none => .error (.duplicates name disks.length)
  | some plan =>
      if plan.keep.status = .error then
        .error (.duplicates name disks.length)
      else
        match plan.remove.find? fun disk =>
            !disk.status.permits .delete with
        | some busy =>
            .error (.refused busy.id busy.status .delete)
        | none => .ok plan

------------------------------------------------------------
-- Removing Them
------------------------------------------------------------

/-
  Deletes volumes in order until a deletion fails. A volume
  that is not there any more counts as deleted.
-/
def removeAll :
    List Disk → Program Host Error Unit
  | [] => return ()
  | disk :: disks => do
      match ← Host.askBackend (.delete disk.id) with
      | .ok () => removeAll disks
      | .error error =>
          if error.isNotFound then removeAll disks
          else
            throw (.during "delete duplicate volume" disk.id
              (.backend error))

/- Removes all volumes of a name but one, which is returned. -/
def resolve
    (settings : Settings)
    (name : String)
    (size : Nat)
    (disks : List Disk) : Program Host Error Disk := do
  let now ← Host.wallClock
  let plan ← Program.ofExcept (plan settings name size now disks)
  removeAll plan.remove
  return plan.keep

end Duplicates

end Service

end BlockVolumes
