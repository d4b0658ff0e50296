import BlockVolumes.Files.Path
import BlockVolumes.Pattern

/-
  Under which path a volume that is attached to this node
  shows up as a device.

  Key definitions include:
    * `Service.Device.name`
    * `Service.Device.path`
-/

namespace BlockVolumes

namespace Service

namespace Device

/- The directory with the devices of all volumes. -/
def directory : Path := ⟨"/dev/disk/by-id"⟩

/- Only so many characters of an identifier may get through. -/
def serialLength : Nat := 20

/-
  The name of the device of a volume. Volumes of premium types
  keep their whole identifier in it.
-/
def name
    (premium : Pattern)
    (volumeId diskType : String) : String :=
  if premium.occursIn diskType then "nvme-" ++ volumeId
  else
    "virtio-" ++
      String.ofList (volumeId.toList.take serialLength)

/- The path of the device of a volume. -/
def path
    (premium : Pattern)
    (volumeId diskType : String) : Path :=
  directory.join (name premium volumeId diskType)

end Device

end Service

end BlockVolumes
