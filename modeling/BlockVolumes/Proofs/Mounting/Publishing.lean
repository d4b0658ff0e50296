import BlockVolumes.Proofs.Csi.Reading
import BlockVolumes.Proofs.Mounting.Lookup
import BlockVolumes.Proofs.Mounting.Plain

/-
  What a call to publish a volume leaves at its target: the
  device that was mounted at the staging path, or that path
  itself, mounted so that nothing is written if this was asked
  for. The staging path leads where it led before the target
  was made.

  Key definitions include:
    * `Mounting.sourceOf`
    * `Mounting.Fits`
    * `Mounting.Published`

  Key theorems include:
    * `Mounting.published_of_mount`
    * `Mounting.publish_leaves_mount`
-/

namespace BlockVolumes

namespace Mounting

open Memory (Mounter World)
open Memory.World (Alike Yields)
open Mount (Point pointAt?)

variable {settings : Settings}
variable {premium : Pattern}
variable {world after : World}
variable {message : Csi.NodePublish.Message}
variable {request : Csi.NodePublish.Request}

------------------------------------------------------------
-- The Mount That Is Asked For
------------------------------------------------------------

/-
  The source of a mount for a message: the device mounted at
  the staging path, or the staging path where there is none.
-/
def sourceOf
    (world : World)
    (message : Csi.NodePublish.Message) : Path :=
  match
    pointAt? world.mounter.table
      (world.tree.canonicalOrSelf ⟨message.stagingPath⟩) with
  | some point => point.device
  | none => ⟨message.stagingPath⟩

/- Whether an entry at a place is the one a message asks for. -/
structure Fits
    (world : World)
    (message : Csi.NodePublish.Message)
    (place : Path)
    (point : Point) : Prop where
  path : Path.Same point.path place
  device : point.device = sourceOf world message
  readonly : message.readonly = true → "ro" ∈ point.options

/- Whether the entry is there at the target of a message. -/
def Published
    (world : World)
    (message : Csi.NodePublish.Message)
    (after : World) : Prop :=
  ∃ point ∈ after.mounter.table,
    Fits world message
      (after.tree.canonicalOrSelf ⟨message.targetPath⟩) point

/- All mounts at targets are binds. -/
theorem bind_mem_publishOptions
    (request : Csi.NodePublish.Request) :
    "bind" ∈ Service.Mounting.publishOptions request := by
  simp [Service.Mounting.publishOptions]

theorem ro_mem_publishOptions
    (h : request.readonly = true) :
    "ro" ∈ Service.Mounting.publishOptions request := by
  simp [Service.Mounting.publishOptions, h]

/- A bind mount takes its source as it was before the target. -/
theorem sourceDevice_eq_sourceOf
    {options : List String}
    (hBind : "bind" ∈ options)
    (hMounter : after.mounter = world.mounter)
    (hSame :
      after.tree.canonicalOrSelf ⟨message.stagingPath⟩ =
        world.tree.canonicalOrSelf ⟨message.stagingPath⟩) :
    after.mounter.sourceDevice after.tree ⟨message.stagingPath⟩
        options =
      sourceOf world message := by
  rw [Mounter.sourceDevice, if_pos hBind, hSame, hMounter]
  rfl

/- The mount that is made at a target is the one asked for. -/
theorem published_of_mount
    {staging : Path}
    {last : World}
    (hRead : request.Reads world.tree.isDirectory message)
    (hStaging : staging = ⟨message.stagingPath⟩)
    (hMounter : after.mounter = world.mounter)
    (hSame :
      after.tree.canonicalOrSelf ⟨message.stagingPath⟩ =
        world.tree.canonicalOrSelf ⟨message.stagingPath⟩)
    (hTree : last.tree = after.tree)
    (hLast :
      last.mounter =
        (after.mounter.mount after.tree (some staging)
          request.targetPath ""
          (Service.Mounting.publishOptions request) []).2) :
    Published world message last := by
  subst hStaging
  let point : Point :=
    { device :=
        after.mounter.sourceDevice after.tree ⟨message.stagingPath⟩
          (Service.Mounting.publishOptions request)
      path := after.tree.canonicalOrSelf request.targetPath
      filesystem := ""
      options := Service.Mounting.publishOptions request ++ [] }
  have hTable :
      last.mounter.table = after.mounter.table ++ [point] := by
    rw [hLast]
    rfl
  refine ⟨point, ?_, ?_, ?_, fun hReadonly => ?_⟩
  · rw [hTable]
    exact List.mem_append_right _ (List.mem_singleton.mpr rfl)
  · rw [hTree, ← hRead.target]
    exact .refl _
  · exact sourceDevice_eq_sourceOf (bind_mem_publishOptions request)
      hMounter hSame
  · rw [← hRead.readonly] at hReadonly
    exact List.mem_append_left _ (ro_mem_publishOptions hReadonly)

------------------------------------------------------------
-- Calls to Publish
------------------------------------------------------------

/- A target that is no mount point becomes the one asked for. -/
theorem mountTarget_yields
    {staging : Path}
    (hRead : request.Reads world.tree.isDirectory message)
    (hStaging : request.stagingPath = some staging)
    (hFits :
      world.mounter.isMounted world.tree ⟨message.targetPath⟩ =
        .ok true → Published world message world) :
    Yields (Service.Mounting.mountTarget request staging) world
      (fun _ => Published world message) (fun _ => True) := by
  rcases hRead.staging staging hStaging with ⟨hPath, _, hThere⟩
  rcases hRead.above with ⟨parent, hParent, hAbove⟩
  have hLook :=
    isMounted_yields "check target mount of" request.volumeId world
      request.targetPath
  refine Yields.bind ⟨hLook.1, fun _ _ _ => trivial⟩ ?_
  rintro mounted now ⟨hAlike, hMounted⟩
  cases mounted with
  | true =>
      rw [hRead.target] at hMounted
      rcases hFits hMounted with ⟨point, hMem, hPoint⟩
      refine Yields.done ⟨point, ?_, ?_⟩
      · rw [hAlike.mounter]
        exact hMem
      · rw [hAlike.tree]
        exact hPoint
  | false =>
      rw [← hAlike.tree] at hAbove hThere
      rcases FileTree.isDirectory_iff.mp hThere with ⟨place, hLeads⟩
      have hSame :
          FileTree.canonicalOrSelf
              (now.makeDirectories request.targetPath).2.tree staging =
            world.tree.canonicalOrSelf staging := by
        rw [← hAlike.tree, hLeads.canonicalOrSelf]
        exact (hLeads.makeDirectories hParent hAbove).canonicalOrSelf
      have hMounter :
          (now.makeDirectories request.targetPath).2.mounter =
            world.mounter :=
        hAlike.mounter
      refine makeDirectories_yields trivial fun _ => ?_
      refine Yields.mapError (.mounter (fun _ _ _ => trivial) ?_
        fun _ _ _ _ => trivial)
      intro _ last hTree hAnswer
      rw [hPath] at hSame
      exact published_of_mount hRead hPath hMounter hSame hTree
        (Prod.mk.inj hAnswer).2.symm

/- A call that goes well was made with a staging path. -/
theorem publish_yields
    (hRead : request.Reads world.tree.isDirectory message)
    (hFits :
      world.mounter.isMounted world.tree ⟨message.targetPath⟩ =
        .ok true → Published world message world) :
    Yields (Service.Mounting.publish request) world
      (fun _ now =>
        world.tree.isDirectory ⟨message.stagingPath⟩ = true ∧
          Published world message now)
      (fun _ => True) := by
  unfold Service.Mounting.publish
  cases hStaging : request.stagingPath with
  | none => exact Yields.failed trivial
  | some staging =>
      rcases hRead.staging staging hStaging with ⟨hPath, _, hThere⟩
      rw [hPath] at hThere
      refine Yields.checked trivial fun _ _ => ?_
      exact (mountTarget_yields hRead hStaging hFits).mapError.mono
        fun _ _ hMount => ⟨hThere, hMount⟩

/-
  A call to publish goes well only for a staging path that is
  a directory. Afterwards the mount that was asked for is at
  the target, if no other one was there before.
-/
theorem publish_leaves_mount
    {answer : Csi.Node.Answer}
    (h :
      served settings premium (.publish message) world =
        (.ok answer, after))
    (hFits :
      world.mounter.isMounted world.tree ⟨message.targetPath⟩ =
        .ok true → Published world message world) :
    world.tree.isDirectory ⟨message.stagingPath⟩ = true ∧
      Published world message after :=
  (Yields.procedure trivial fun _ hRead =>
    publish_yields
      (Csi.NodePublish.Request.reads_of_ofMessage hRead) hFits).1
    answer after h

/- The device of a volume that is staged is mounted read-only. -/
theorem publish_leaves_mount_readonly :
    let point : Point :=
      { device := ⟨"/dev/vdb"⟩
        path := ⟨"/staged"⟩
        filesystem := "ext4" }
    let start : World :=
      { mounter := { table := [point] }
        tree :=
          { entries :=
              [(["staged"], .directory), (["target"], .directory)] } }
    let message : Csi.NodePublish.Message :=
      { volumeId := "vol-1"
        stagingPath := "/staged"
        targetPath := "/target"
        capability := some ⟨some 1, some (.mount "" [])⟩
        readonly := true }
    ∃ after,
      served {} (.sequence .atStart .atEnd) (.publish message) start =
        (.ok .published, after) ∧
      start.mounter.isMounted start.tree ⟨message.targetPath⟩ =
        .ok false ∧
      start.tree.isDirectory ⟨message.stagingPath⟩ = true ∧
      Published start message after := by
  intro point start message
  have hStaged : start.tree.LeadsTo ⟨"/staged"⟩ ["staged"] :=
    FileTree.leadsTo_of_name rfl rfl rfl (by decide) rfl
  have hTarget : start.tree.LeadsTo ⟨"/target"⟩ ["target"] :=
    FileTree.leadsTo_of_name rfl rfl rfl (by decide) rfl
  have hFree :
      start.mounter.isMounted start.tree ⟨"/target"⟩ = .ok false := by
    rw [isMounted_of_resolve rfl hTarget.resolve]
    decide
  have hRead :
      Csi.NodePublish.Request.ofMessage start.tree.isDirectory
        { volumeId := "vol-1"
          stagingPath := "/staged"
          targetPath := "/target"
          capability := some ⟨some 1, some (.mount "" [])⟩
          readonly := true } =
        .ok _ :=
    Csi.NodePublish.Request.ofMessage_eq_ok rfl rfl
      (FileTree.isDirectory_iff.mpr ⟨_, hStaged⟩) rfl rfl
      (FileTree.isDirectory_root _) fun _ => rfl
  have hServed :
      served {} (.sequence .atStart .atEnd) (.publish message) start =
        (.ok .published, _) :=
    served_publish rfl hRead rfl rfl hFree
      (hTarget.makeDirectoriesFrom _)
  have hNot :
      start.mounter.isMounted start.tree ⟨message.targetPath⟩ =
        .ok true → Published start message start := by
    intro hMounted
    have hSame := hFree.symm.trans hMounted
    simp at hSame
  rcases publish_leaves_mount hServed hNot with ⟨hThere, hMount⟩
  exact ⟨_, hServed, hFree, hThere, hMount⟩

------------------------------------------------------------
-- A Target That Is Taken
------------------------------------------------------------

namespace TakenTarget

/- The device of the volume. -/
def device : Path := ⟨"/dev/disk/by-id/virtio-vol-1"⟩

/- The device has a filesystem, and nothing is mounted. -/
def start : World :=
  { mounter := { paths := [device], formats := [(device, "ext4")] }
    tree :=
      { entries :=
          [(["plain"], .directory), (["staged"], .directory),
            (["target"], .directory)] } }

/- A directory is mounted at the target. -/
def first : World :=
  { start with
    mounter :=
      withPoint start.mounter
        { device := ⟨"/plain"⟩
          path := ⟨"/target"⟩
          filesystem := ""
          options := ["bind"] } }

/- The device is mounted at its staging path, too. -/
def second : World :=
  { first with
    mounter :=
      withPoint first.mounter
        { device := device
          path := ⟨"/staged"⟩
          filesystem := "ext4" } }

theorem leadsTo_plain :
    start.tree.LeadsTo ⟨"/plain"⟩ ["plain"] :=
  FileTree.leadsTo_of_name rfl rfl rfl (by decide) rfl

theorem leadsTo_staged :
    start.tree.LeadsTo ⟨"/staged"⟩ ["staged"] :=
  FileTree.leadsTo_of_name rfl rfl rfl (by decide) rfl

theorem leadsTo_target :
    start.tree.LeadsTo ⟨"/target"⟩ ["target"] :=
  FileTree.leadsTo_of_name rfl rfl rfl (by decide) rfl

/- A path that is no mount point is mounted itself. -/
theorem served_first :
    served {} (.sequence .atStart .atEnd)
        (.publish (plainPublish "vol-1" "/plain" "/target" false))
        start =
      (.ok .published, first) :=
  Eq.trans
    (served_plainPublish rfl rfl leadsTo_plain rfl rfl
      (FileTree.isDirectory_root _) leadsTo_target rfl rfl rfl)
    rfl

theorem served_second :
    served {} (.sequence .atStart .atEnd)
        (.stage (plainStage "vol-1" "/staged" [])) first =
      (.ok .staged, second) :=
  Eq.trans
    (served_plainStage rfl rfl leadsTo_staged rfl
      (hasPath_of_isIn (by decide)) (by decide) (by decide) rfl)
    rfl

theorem isMounted_staged :
    second.mounter.isMounted second.tree ⟨"/staged"⟩ = .ok true := by
  have hLeads : second.tree.LeadsTo ⟨"/staged"⟩ ["staged"] :=
    leadsTo_staged
  rw [isMounted_of_leadsTo rfl hLeads]
  decide

/- What is mounted at the target already is not looked at. -/
theorem served_third :
    served {} (.sequence .atStart .atEnd)
        (.publish (plainPublish "vol-1" "/staged" "/target" true))
        second =
      (.ok .published, second) :=
  served_plainPublish_again rfl rfl leadsTo_staged rfl rfl
    (FileTree.isDirectory_root _) leadsTo_target rfl (by decide)

end TakenTarget

/-
  A volume is published before it is staged: its staging path
  is mounted at the target like any other directory. Once it
  is staged, it is published again, to be read only, and what
  is mounted at the target stays.
-/
theorem publish_over_other_mount :
    let start := TakenTarget.start
    start.mounter.table = [] ∧
    start.mounter.isMounted start.tree ⟨"/plain"⟩ = .ok false ∧
    ∃ first second after,
      served {} (.sequence .atStart .atEnd)
          (.publish (plainPublish "vol-1" "/plain" "/target" false))
          start =
        (.ok .published, first) ∧
      served {} (.sequence .atStart .atEnd)
          (.stage (plainStage "vol-1" "/staged" [])) first =
        (.ok .staged, second) ∧
      second.mounter.isMounted second.tree ⟨"/staged"⟩ = .ok true ∧
      served {} (.sequence .atStart .atEnd)
          (.publish (plainPublish "vol-1" "/staged" "/target" true))
          second =
        (.ok .published, after) ∧
      ∀ point ∈ after.mounter.table,
        Path.Same point.path ⟨"/target"⟩ →
          point.device ≠ TakenTarget.device ∧
            "ro" ∉ point.options :=
  ⟨rfl, Mounter.isMounted_of_empty rfl _ _, _, _, _,
    TakenTarget.served_first, TakenTarget.served_second,
    TakenTarget.isMounted_staged, TakenTarget.served_third,
    by decide⟩

end Mounting

end BlockVolumes
