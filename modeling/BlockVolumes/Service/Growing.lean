import BlockVolumes.Csi.Growth
import BlockVolumes.Service.Attaching

/-
  Making volumes larger. One volume grows at a time, so that
  no request acts on a size that another one has changed.

  Key definitions include:
    * `Service.Growing.growTo`
    * `Service.Growing.expand`
-/

namespace BlockVolumes

namespace Service

namespace Growing

open Csi (ExpandVolume.Error ExpandVolume.Outcome)

/- The answer for a size in GiB. A node has to act as well. -/
def outcome
    (size : Nat) : ExpandVolume.Outcome :=
  ⟨size * Capacity.gib, true⟩

/- Whether a volume has grown to a size. -/
def hasGrown
    (size : Nat)
    (disk : Disk) : Bool :=
  disk.status != .extending && decide (size ≤ disk.size)

/-
  Makes a volume that is smaller than a size as large, and
  waits until that is done.
-/
def growTo
    (settings : Settings)
    (volumeId : String)
    (size : Nat)
    (disk : Disk) : Program Host Error Unit :=
  if disk.status.permits .expand then do
    during .backend "expand volume" volumeId
      (Host.backend (.expand volumeId size))
    let _ ←
      Wait.untilMet settings.polling volumeId "resized"
        (hasGrown size)
    return ()
  else
    throw (.refused volumeId disk.status .expand)

/- Makes a volume as large as a size, if it is not yet. -/
def expandTo
    (settings : Settings)
    (volumeId : String)
    (size : Nat) :
    Program Host ExpandVolume.Error ExpandVolume.Outcome := do
  let disk ←
    Attaching.getVolume ExpandVolume.Error.volumeMissing volumeId
  if size ≤ disk.size then
    return outcome disk.size
  else
    within (growTo settings volumeId size disk)
    return outcome size

/- Makes a volume larger. -/
def expand
    (settings : Settings)
    (request : Csi.ExpandVolume.Request) :
    Program Host ExpandVolume.Error ExpandVolume.Outcome :=
  if settings.expansionEnabled then
    match Capacity.allocate settings.capacity
        (some request.range) with
    | .error refusal => throw (raise (.capacity refusal))
    | .ok size =>
        Host.exclusively
          (expandTo settings request.volumeId size)
  else
    throw .disabled

end Growing

end Service

end BlockVolumes
