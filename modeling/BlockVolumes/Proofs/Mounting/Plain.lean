import BlockVolumes.Proofs.Csi.Reading
import BlockVolumes.Proofs.Mounting.Lookup
import BlockVolumes.Proofs.Mounting.Serving

/-
  Calls with plain messages, which ask for a filesystem of a
  single writer and for nothing else, and the entry that each
  of them adds to the mount table.

  Key definitions include:
    * `Mounting.withPoint`
    * `Mounting.plainStage`
    * `Mounting.plainPublish`
    * `Mounting.plainExpand`

  Key theorems include:
    * `Mounting.served_plainStage`
    * `Mounting.served_plainStage_again`
    * `Mounting.served_plainPublish`
    * `Mounting.served_plainPublish_again`
-/

namespace BlockVolumes

namespace Mounting

open Memory (Mounter World)
open Mount (Point pointAt?)

variable {settings : Settings}
variable {premium : Pattern}
variable {world : World}
variable {mounter : Mounter}
variable {tree : FileTree}
variable {device source target : Path}
variable {place spot : FilePlace}
variable {filesystem volumeId staging targetPath : String}
variable {options flags : List String}

------------------------------------------------------------
-- New Entries
------------------------------------------------------------

/- A mounter after something was mounted. -/
def withPoint
    (mounter : Mounter)
    (point : Point) : Mounter :=
  { mounter with
    table := mounter.table ++ [point]
    log :=
      mounter.log ++
        [.mounted point.device point.path point.filesystem
          point.options] }

theorem mount_eq_withPoint
    (hTarget : tree.LeadsTo target place)
    (hDevice : mounter.sourceDevice tree source options = device) :
    (mounter.mount tree (some source) target filesystem options
        []).2 =
      withPoint mounter
        { device := device
          path := Path.ofNames place
          filesystem := filesystem
          options := options } := by
  simp [Mounter.mount, Mounter.record, withPoint, hDevice,
    hTarget.canonicalOrSelf]

/- A bind mount looks for an entry where its source leads. -/
theorem sourceDevice_of_leadsTo
    (hSource : tree.LeadsTo source place)
    (hBind : "bind" ∈ options) :
    mounter.sourceDevice tree source options =
      ((pointAt? mounter.table (Path.ofNames place)).map
        (·.device)).getD source := by
  rw [Mounter.sourceDevice, if_pos hBind, hSource.canonicalOrSelf]
  cases pointAt? mounter.table (Path.ofNames place) with
  | none => rfl
  | some point => rfl

/- A path that is kept beside the tree is there. -/
theorem hasPath_of_isIn
    {path : Path}
    (h : path.isIn mounter.paths = true) :
    mounter.hasPath tree path = true := by
  rw [Mounter.hasPath, h, Bool.true_or, Bool.true_or]

/- Entries decide about a path that leads to a directory. -/
theorem isMounted_of_leadsTo
    {path : Path}
    (hPath : path.isAbsolute = true)
    (hLeads : tree.LeadsTo path place) :
    mounter.isMounted tree path =
      .ok (mounter.table.any fun point =>
        decide (point.Matches (Path.ofNames place))) :=
  isMounted_of_resolve hPath hLeads.resolve

------------------------------------------------------------
-- Staging
------------------------------------------------------------

/- A message to stage a volume with mount flags only. -/
def plainStage
    (volumeId staging : String)
    (flags : List String) : Csi.NodeStage.Message :=
  { volumeId := volumeId
    stagingPath := staging
    capability := some ⟨some 1, some (.mount "" flags)⟩ }

/- The request in such a message. -/
def plainStageRequest
    (volumeId staging : String)
    (flags : List String) : Csi.NodeStage.Request :=
  { volumeId := volumeId
    publishContext := []
    stagingPath := ⟨staging⟩
    capability := ⟨.singleNodeWriter, .mount (.new (some "") flags)⟩
    secrets := []
    context := [] }

section Stage

variable
  (hVolume : volumeId.isEmpty = false)
  (hPath : (Path.mk staging).isAbsolute = true)
  (hStaging : world.tree.LeadsTo ⟨staging⟩ place)

include hVolume hPath hStaging

theorem plainStage_read :
    Csi.NodeStage.Request.ofMessage world.tree.isDirectory
        (plainStage volumeId staging flags) =
      .ok (plainStageRequest volumeId staging flags) :=
  Csi.NodeStage.Request.ofMessage_eq_ok hVolume hPath
    (FileTree.isDirectory_iff.mpr ⟨_, hStaging⟩) fun _ => rfl

variable
  (hScript : world.mounterFailures = [])
  (hDevice :
    world.mounter.hasPath world.tree
      (Service.Device.path premium volumeId settings.diskType) = true)
  (hData :
    (world.mounter.format?
      (Service.Device.path premium volumeId
        settings.diskType)).isSome = true)

include hScript hDevice hData

/- The volume is mounted where no entry is about the directory. -/
theorem served_plainStage
    (hFree :
      (world.mounter.table.any fun point =>
        decide (point.Matches (Path.ofNames place))) = false)
    (hSource :
      world.mounter.sourceDevice world.tree
          (Service.Device.path premium volumeId settings.diskType)
          flags =
        device) :
    served settings premium
        (.stage (plainStage volumeId staging flags)) world =
      (.ok .staged,
        { world with
          mounter :=
            withPoint world.mounter
              { device := device
                path := Path.ofNames place
                filesystem := settings.filesystem
                options := flags } }) := by
  rw [← mount_eq_withPoint hStaging hSource]
  refine served_stage hScript (plainStage_read hVolume hPath hStaging)
    rfl rfl hDevice hData ?_
  exact (isMounted_of_leadsTo hPath hStaging).trans
    (congrArg Except.ok hFree)

/- Nothing is mounted where an entry is about the directory. -/
theorem served_plainStage_again
    (hMounted :
      (world.mounter.table.any fun point =>
        decide (point.Matches (Path.ofNames place))) = true) :
    served settings premium
        (.stage (plainStage volumeId staging flags)) world =
      (.ok .staged, world) := by
  refine served_stage_again hScript
    (plainStage_read hVolume hPath hStaging) rfl rfl hDevice hData ?_
  exact (isMounted_of_leadsTo hPath hStaging).trans
    (congrArg Except.ok hMounted)

end Stage

------------------------------------------------------------
-- Publishing
------------------------------------------------------------

/- A message to publish a volume from one path at another. -/
def plainPublish
    (volumeId staging target : String)
    (readonly : Bool) : Csi.NodePublish.Message :=
  { volumeId := volumeId
    stagingPath := staging
    targetPath := target
    capability := some ⟨some 1, some (.mount "" [])⟩
    readonly := readonly }

/- The request in such a message. -/
def plainPublishRequest
    (volumeId staging target : String)
    (readonly : Bool) : Csi.NodePublish.Request :=
  { volumeId := volumeId
    publishContext := []
    stagingPath := some ⟨staging⟩
    targetPath := ⟨target⟩
    capability := ⟨.singleNodeWriter, .mount (.new (some "") [])⟩
    readonly := readonly
    secrets := []
    context := [] }

/- The options of the mount that such a request asks for. -/
def plainOptions
    (readonly : Bool) : List String :=
  "bind" :: if readonly then ["ro"] else []

section Publish

variable
  {parent : Path}
  {readonly : Bool}
  (hVolume : volumeId.isEmpty = false)
  (hPath : (Path.mk staging).isAbsolute = true)
  (hStaging : world.tree.LeadsTo ⟨staging⟩ spot)
  (hAbsolute : (Path.mk targetPath).isAbsolute = true)
  (hParent : (Path.mk targetPath).parent? = some parent)
  (hAbove : world.tree.isDirectory parent = true)

include hVolume hPath hStaging hAbsolute hParent hAbove

theorem plainPublish_read :
    Csi.NodePublish.Request.ofMessage world.tree.isDirectory
        (plainPublish volumeId staging targetPath readonly) =
      .ok (plainPublishRequest volumeId staging targetPath readonly) :=
  Csi.NodePublish.Request.ofMessage_eq_ok hVolume hPath
    (FileTree.isDirectory_iff.mpr ⟨_, hStaging⟩) hAbsolute hParent
    hAbove fun _ => rfl

/- What is behind the staging path is mounted at the target. -/
theorem served_plainPublish
    (hTarget : world.tree.LeadsTo ⟨targetPath⟩ place)
    (hScript : world.mounterFailures = [])
    (hFree :
      (world.mounter.table.any fun point =>
        decide (point.Matches (Path.ofNames place))) = false)
    (hSource :
      ((pointAt? world.mounter.table (Path.ofNames spot)).map
        (·.device)).getD ⟨staging⟩ = device) :
    served settings premium
        (.publish (plainPublish volumeId staging targetPath readonly))
        world =
      (.ok .published,
        { world with
          mounter :=
            withPoint world.mounter
              { device := device
                path := Path.ofNames place
                filesystem := ""
                options := plainOptions readonly } }) := by
  have hDevice :
      world.mounter.sourceDevice world.tree ⟨staging⟩
          (plainOptions readonly) =
        device :=
    (sourceDevice_of_leadsTo hStaging
      (by simp [plainOptions])).trans hSource
  have hMade :
      world.tree.makeDirectories ⟨targetPath⟩ =
        (.ok (), world.tree) :=
    hTarget.makeDirectoriesFrom _
  have hNone :
      world.mounter.isMounted world.tree ⟨targetPath⟩ = .ok false :=
    (isMounted_of_leadsTo hAbsolute hTarget).trans
      (congrArg Except.ok hFree)
  rw [← mount_eq_withPoint hTarget hDevice]
  refine (served_publish hScript
    (plainPublish_read hVolume hPath hStaging hAbsolute hParent hAbove)
    rfl rfl hNone hMade).trans ?_
  cases readonly <;> rfl

/- Nothing is mounted where an entry is about the target. -/
theorem served_plainPublish_again
    (hTarget : world.tree.LeadsTo ⟨targetPath⟩ place)
    (hScript : world.mounterFailures = [])
    (hMounted :
      (world.mounter.table.any fun point =>
        decide (point.Matches (Path.ofNames place))) = true) :
    served settings premium
        (.publish (plainPublish volumeId staging targetPath readonly))
        world =
      (.ok .published, world) := by
  refine served_publish_again hScript
    (plainPublish_read hVolume hPath hStaging hAbsolute hParent hAbove)
    rfl rfl ?_
  exact (isMounted_of_leadsTo hAbsolute hTarget).trans
    (congrArg Except.ok hMounted)

end Publish

------------------------------------------------------------
-- Growing
------------------------------------------------------------

/- A message to grow the filesystem at a path. -/
def plainExpand
    (volumeId path : String) : Csi.NodeExpand.Message :=
  { volumeId := volumeId, volumePath := path }

/- The request in such a message. -/
def plainExpandRequest
    (volumeId path : String) : Csi.NodeExpand.Request :=
  { volumeId := volumeId
    volumePath := ⟨path⟩
    range := none
    stagingPath := none
    capability := none }

theorem plainExpand_read
    {path : String}
    (hVolume : volumeId.isEmpty = false)
    (hPath : (Path.mk path).isAbsolute = true) :
    Csi.NodeExpand.Request.ofMessage (plainExpand volumeId path) =
      .ok (plainExpandRequest volumeId path) := by
  unfold Csi.NodeExpand.Request.ofMessage
  simp [plainExpand, plainExpandRequest, Csi.required,
    Csi.absolutePath, Csi.optionalAbsolutePath,
    Csi.readOptionalRange, Csi.isEmpty_of_isAbsolute hPath, hVolume,
    hPath, bind, Except.bind, pure, Except.pure]

end Mounting

end BlockVolumes
