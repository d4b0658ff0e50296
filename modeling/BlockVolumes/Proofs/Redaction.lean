import BlockVolumes.Csi.Capability
import BlockVolumes.Csi.Provisioning
import BlockVolumes.Mount.Point
import BlockVolumes.Proofs.Text.Quoted

/-
  What reports tell of secrets. The text of a request, of a
  capability or of an entry of the mount table tells all that
  it shows, and of the secrets no more than their keys, of
  flags and options no more than how many there are.

  Key theorems include:
    * `Csi.DeleteVolume.Request.describe_eq_iff`
    * `Csi.MountSpec.tells_describe`
    * `Csi.Capability.describe_mount_eq_iff`
    * `Mount.Point.describe_eq_iff`
    * `Redaction.reports_tell_no_secrets`
-/

namespace BlockVolumes

open Text

------------------------------------------------------------
-- Requests
------------------------------------------------------------

namespace Csi

namespace DeleteVolume

namespace Request

/- Of an entry of the secrets reports tell the key. -/
theorem tells_secret :
    Tells
      (fun entry : String × String =>
        quote entry.1 ++ ": \"SECRET\"")
      Prod.fst :=
  (tells_quote.of Prod.fst).before ": \"SECRET\""

/- Of all of them it is the list of the keys. -/
theorem tells_secrets :
    Tells
      (fun entries : List (String × String) =>
        ", ".intercalate
            (entries.map fun entry =>
              quote entry.1 ++ ": \"SECRET\"") ++
          "\x7d \x7d")
      (List.map Prod.fst) := by
  apply tells_secret.list
  · intro entry rest other h
    have hLists := congrArg String.toList h
    simp [quote] at hLists
  · intro rest other h
    have hLists := congrArg String.toList h
    simp at hLists

theorem describe_eq_iff
    {request other : Request} :
    request.describe = other.describe ↔
      request.volumeId = other.volumeId ∧
        request.secrets.map Prod.fst =
          other.secrets.map Prod.fst := by
  have hVolume :=
    ((tells_quote.of volumeId).after
      "DeleteVolumeRequest \x7b volume_id: ").before
      ", secrets: \x7b"
  have hRequest := hVolume.append_ended (tells_secrets.of secrets)
  have hViews := hRequest.eq_iff (a := request) (b := other)
  rwa [Prod.mk.injEq] at hViews

end Request

end DeleteVolume

------------------------------------------------------------
-- Capabilities
------------------------------------------------------------

/- No name of a mode begins with that of another one. -/
theorem AccessMode.tells_name :
    Tells AccessMode.name id := by
  apply tells_of_prefix_free
  intro mode other
  cases mode <;> cases other <;> decide

theorem MountSpec.tells_describe :
    Tells MountSpec.describe fun spec =>
      (spec.filesystem, spec.flags.length) := by
  have hLength :
      Tells (fun n : Nat => toString n ++ " items)\" \x7d") id :=
    tells_natural ' ' "items)\" \x7d"
      (by decide) (by decide)
  have hFilesystem :=
    ((tells_quoteOption.of MountSpec.filesystem).after
      "MountVolume \x7b fs_type: ").before
      ", mount_flags: \"REDACTED ("
  exact
    hFilesystem.append_ended
      (hLength.of fun spec : MountSpec => spec.flags.length)

theorem Capability.describe_mount_eq_iff
    {mode mode' : AccessMode}
    {spec spec' : MountSpec} :
    (Capability.mk mode (.mount spec)).describe =
        (Capability.mk mode' (.mount spec')).describe ↔
      mode = mode' ∧ spec.filesystem = spec'.filesystem ∧
        spec.flags.length = spec'.flags.length := by
  have hMode :=
    ((AccessMode.tells_name.of fun use : AccessMode × MountSpec =>
      use.1).after "VolumeCapability \x7b access_mode: ").before
      ", access_type: "
  have hAccess :=
    ((MountSpec.tells_describe.of fun use : AccessMode × MountSpec =>
      use.2).after "Mount(").before ")"
  have hCapability :
      Tells
        (fun use : AccessMode × MountSpec =>
          (Capability.mk use.1 (.mount use.2)).describe)
        fun use =>
          (use.1, use.2.filesystem, use.2.flags.length) :=
    (hMode.append hAccess).before " \x7d"
  have hViews :=
    hCapability.eq_iff (a := (mode, spec)) (b := (mode', spec'))
  rwa [Prod.mk.injEq, Prod.mk.injEq] at hViews

end Csi

------------------------------------------------------------
-- Mount Points
------------------------------------------------------------

namespace Mount

namespace Point

/- The quoted text of a path tells the path. -/
theorem tells_path :
    Tells (fun path : Path => quote path.text) id := by
  apply (tells_quote.of Path.text).congr
  intro path other
  cases path
  cases other
  exact (Path.mk.injEq _ _).symm.to_iff

theorem describe_eq_iff
    {point other : Point} :
    point.describe = other.describe ↔
      point.device = other.device ∧ point.path = other.path ∧
        point.filesystem = other.filesystem ∧
        point.options.length = other.options.length ∧
        point.dumpInterval = other.dumpInterval ∧
        point.checkOrder = other.checkOrder := by
  have hLength :
      Tells (fun n : Nat => toString n ++ "\", freq: ") id :=
    tells_natural '"' ", freq: "
      (by decide) (by decide)
  have hInterval :
      Tells (fun n : Int => toString n ++ ", pass: ") id :=
    tells_integer ',' " pass: "
      (by decide) (by decide) (by decide)
  have hOrder :
      Tells (fun n : Int => toString n ++ " \x7d") id :=
    tells_integer ' ' "\x7d"
      (by decide) (by decide) (by decide)
  have hDevice :=
    ((tells_path.of device).after
      "MountPoint \x7b device: ").before ", path: "
  have hPath :=
    (hDevice.append (tells_path.of path)).before ", type: "
  have hFilesystem :=
    (hPath.append (tells_quote.of filesystem)).before
      ", opts: \"length="
  have hOptions :=
    hFilesystem.append_ended
      (hLength.of fun point : Point => point.options.length)
  have hDump :=
    hOptions.append_ended (hInterval.of dumpInterval)
  have hPoint :
      Tells describe _ :=
    hDump.append_ended (hOrder.of checkOrder)
  have hViews := hPoint.eq_iff (a := point) (b := other)
  simpa only [Prod.mk.injEq, and_assoc, id] using hViews

end Point

end Mount

------------------------------------------------------------
-- All of Them
------------------------------------------------------------

namespace Redaction

/-
  Reports do not depend on secrets. Two requests to delete a
  volume have the same text if and only if they have the same
  volume and the same keys of secrets in the same order. Two
  uses of a volume as a filesystem have the same text if and
  only if they have the same mode, filesystem and number of
  flags. The same holds of two entries of the mount table with
  the same number of options and the same other fields.
-/
theorem reports_tell_no_secrets :
    (∀ request other : Csi.DeleteVolume.Request,
      request.describe = other.describe ↔
        request.volumeId = other.volumeId ∧
          request.secrets.map Prod.fst =
            other.secrets.map Prod.fst) ∧
    (∀ (mode mode' : Csi.AccessMode)
        (spec spec' : Csi.MountSpec),
      (Csi.Capability.mk mode (.mount spec)).describe =
          (Csi.Capability.mk mode' (.mount spec')).describe ↔
        mode = mode' ∧ spec.filesystem = spec'.filesystem ∧
          spec.flags.length = spec'.flags.length) ∧
    (∀ point other : Mount.Point,
      point.describe = other.describe ↔
        point.device = other.device ∧ point.path = other.path ∧
          point.filesystem = other.filesystem ∧
          point.options.length = other.options.length ∧
          point.dumpInterval = other.dumpInterval ∧
          point.checkOrder = other.checkOrder) :=
  ⟨fun _ _ => Csi.DeleteVolume.Request.describe_eq_iff,
    fun _ _ _ _ => Csi.Capability.describe_mount_eq_iff,
    fun _ _ => Mount.Point.describe_eq_iff⟩

/-
  Two passwords have one text, also if the quotes and the brace
  of one would end the list of the secrets.
-/
theorem reports_tell_no_secrets_passwords :
    (⟨"pd-1", [("user", "root"), ("password", "\"\x7d \x7d")]⟩ :
        Csi.DeleteVolume.Request).describe =
      (⟨"pd-1", [("user", ""), ("password", "hunter2")]⟩ :
        Csi.DeleteVolume.Request).describe :=
  (reports_tell_no_secrets.1 _ _).mpr ⟨rfl, rfl⟩

end Redaction

end BlockVolumes
