import BlockVolumes.Proofs.Mounting.Expanding
import BlockVolumes.Proofs.Mounting.Plain
import BlockVolumes.Proofs.Mounting.Tracing

/-
  Growing the filesystem at a path. What is resized is the
  device that is found at the path. In runs by a plan, this is
  the device of the volume that the path belongs to.

  Key definitions include:
    * `Mounting.Resized`

  Key theorems include:
    * `Mounting.expand_yields`
    * `Mounting.served_expand`
    * `Mounting.mounted_path_leads_to_device`
-/

namespace BlockVolumes

namespace Mounting

open Csi (NodeExpand.Request)
open Memory (Action Mounter World)
open Memory.World (Alike Yields run run_bind_of_ok run_checked_eq_ok
  run_procedure_eq_ok run_within)
open Mount (Point pointAt?)
open Service.NodeAgent (checkStated expand_eq growMounted growOn
  resizeOn statedFilesystem)

variable {settings : Settings}
variable {premium : Pattern}
variable {plan : Plan}
variable {start world now after : World}
variable {device path : Path}
variable {request : NodeExpand.Request}
variable {volumeId : String}

------------------------------------------------------------
-- What Is Resized
------------------------------------------------------------

/-
  Whether nothing was recorded, or only that a device was
  resized for a path.
-/
def Resized
    (world : World)
    (device path : Path)
    (after : World) : Prop :=
  after.mounter.log = world.mounter.log ∨
    ∃ filesystem,
      after.mounter.log =
        world.mounter.log ++ [.resized filesystem device path]

theorem Resized.of_alike
    (h : Alike world after) :
    Resized world device path after :=
  .inl (by rw [h.mounter])

/- A device is resized once, or the mounter refuses. -/
theorem resizeOn_yields
    {filesystem : Option String}
    (hAlike : Alike world now) :
    Yields (resizeOn request device filesystem) now
      (fun _ => Resized world device request.volumePath)
      (Resized world device request.volumePath) := by
  have hAnswer :
      ∀ {reply : Except Mount.Error Unit} {later : World},
        now.mounter.answer now.tree
            (.resize filesystem device request.volumePath) =
          (reply, later.mounter) →
            Resized world device request.volumePath later := by
    intro reply later hAnswer
    have hLog :
        (now.mounter.answer now.tree
            (.resize filesystem device request.volumePath)).2.log =
          now.mounter.log ++
            (now.mounter.actionOf? now.tree
              (.resize filesystem device request.volumePath)).toList :=
      Mounter.log_of_call _
    rw [hAnswer, hAlike.mounter] at hLog
    by_cases hGrows : filesystem.getD "ext4" ∈ Mounter.growing
    · exact .inr ⟨filesystem, by
        simpa [Mounter.actionOf?, hGrows] using hLog⟩
    · exact .inl (by simpa [Mounter.actionOf?, hGrows] using hLog)
  have hCall :
      Yields
        (Service.Mounting.call "resize filesystem of" request.volumeId
          (.resize filesystem device request.volumePath))
        now (fun _ => Resized world device request.volumePath)
        (Resized world device request.volumePath) := by
    refine Yields.mapError (.mounter ?_ ?_ ?_)
    · intro later _ hSame
      exact .inl (by rw [hSame, hAlike.mounter])
    · exact fun _ later _ hReply => hAnswer hReply
    · exact fun _ later _ hReply => hAnswer hReply
  exact Yields.bind (Yields.mapError hCall) fun _ _ hEnd =>
    Yields.done hEnd

/- The filesystem is looked up before the device is resized. -/
theorem growOn_yields
    (hAlike : Alike world now) :
    Yields (growOn request device) now
      (fun _ => Resized world device request.volumePath)
      (Resized world device request.volumePath) := by
  unfold growOn
  cases statedFilesystem request with
  | some filesystem => exact resizeOn_yields hAlike
  | none =>
      have hLook :
          Yields
            (Service.NodeAgent.detectFilesystem request.volumeId device)
            now (fun _ => Alike now) (Alike now) :=
        Yields.mapError ((Yields.question rfl).mono fun _ _ h => h.1)
      have hTrans :
          ∀ {later : World}, Alike now later → Alike world later :=
        fun h => ⟨h.tree.trans hAlike.tree, h.mounter.trans hAlike.mounter⟩
      refine Yields.bind (Yields.mapError
        ⟨hLook.1, fun e later hRun => ?_⟩) fun _ later hLater => ?_
      · exact .of_alike (hTrans (hLook.2 e later hRun))
      · exact resizeOn_yields (hTrans hLater)

/- Only the device is resized that is found at the path. -/
theorem expand_yields
    {uses : Nat}
    (hFound :
      Mount.deviceMountedAt world.mounter.table
        (world.tree.canonicalOrSelf request.volumePath).raw =
          some (device, uses)) :
    Yields (Service.NodeAgent.expand request) world
      (fun _ => Resized world device request.volumePath)
      (Resized world device request.volumePath) := by
  have hSelf : Resized world device request.volumePath world :=
    .inl rfl
  rw [expand_eq]
  refine Yields.checked hSelf fun _ _ => ?_
  have hLook :
      Yields
        (Service.NodeAgent.deviceMountedAt request.volumeId
          request.volumePath)
        world
        (fun found later =>
          Alike world later ∧ found = some (device, uses))
        (Alike world) := by
    refine Yields.mapError ((Yields.question rfl).mono ?_)
    rintro found later ⟨hAlike, hReply⟩
    exact ⟨hAlike, (Except.ok.inj hReply).symm.trans hFound⟩
  refine Yields.bind (Yields.mapError
    ⟨hLook.1, fun e later hRun => .of_alike (hLook.2 e later hRun)⟩) ?_
  rintro _ later ⟨hAlike, rfl⟩
  exact growOn_yields hAlike

/- The device is resized where the mounter finds one. -/
theorem served_expand
    {message : Csi.NodeExpand.Message}
    {uses : Nat}
    (hScript : world.mounterFailures = [])
    (hRead : NodeExpand.Request.ofMessage message = .ok request)
    (hCheck : checkStated request.capability = .ok ())
    (hFound :
      Mount.deviceMountedAt world.mounter.table
        (world.tree.canonicalOrSelf request.volumePath).raw =
          some (device, uses))
    (hStated : statedFilesystem request = none)
    (hGrows :
      (world.mounter.format? device).getD "ext4" ∈ Mounter.growing) :
    served settings premium (.expand message) world =
      (.ok (.expanded
          (Csi.Node.writeCapacity
            (request.range.bind (·.required?)))),
        { world with
          mounter :=
            world.mounter.record
              (.resized (world.mounter.format? device) device
                request.volumePath) }) := by
  have hLook :
      run
        (Service.NodeAgent.deviceMountedAt request.volumeId
          request.volumePath) world =
        (.ok (some (device, uses)), world) :=
    run_question hScript rfl (congrArg Except.ok hFound)
  have hDetect :
      run
        (Service.NodeAgent.detectFilesystem request.volumeId device)
        world =
        (.ok (world.mounter.format? device), world) :=
    run_question hScript rfl rfl
  have hResize :
      run
        (Service.Mounting.call "resize filesystem of" request.volumeId
          (.resize (world.mounter.format? device) device
            request.volumePath)) world =
        (.ok (),
          { world with
            mounter :=
              world.mounter.record
                (.resized (world.mounter.format? device) device
                  request.volumePath) }) :=
    run_call hScript (if_pos hGrows)
  refine run_procedure_eq_ok.mpr
    ⟨request, request.range.bind (·.required?), hRead, ?_, rfl⟩
  rw [expand_eq, run_bind_of_ok (run_checked_eq_ok.mpr ⟨hCheck, rfl⟩),
    run_bind_of_ok (by rw [run_within, hLook]; rfl)]
  change run (growOn request device) world = _
  rw [growOn, hStated]
  change run (Program.bind _ _) world = _
  rw [run_bind_of_ok (by rw [run_within, hDetect]; rfl)]
  change run (Program.bind _ _) world = _
  rw [run_bind_of_ok (by rw [run_within, hResize]; rfl)]
  rfl

------------------------------------------------------------
-- Runs by a Plan
------------------------------------------------------------

/-
  However volumes are staged, unstaged, published and
  unpublished by a plan, from an empty table on: at each path
  with an entry, the mounter finds the device of the volume
  that the path belongs to, and the number of paths at which
  this volume is mounted. To grow the filesystem at the path
  resizes no other device.
-/
theorem mounted_path_leads_to_device
    (hPlan : plan.Sound premium start.tree)
    (hStart : start.mounter.table = [])
    (hRun :
      Relation.ReflTransGen (plan.Step settings premium) start world)
    (hPath : plan.volumeAt? path.components = some volumeId)
    (hListed : Listed world.mounter.table path) :
    world.mounter.answer world.tree (.deviceMountedAt path) =
        (.ok (some
            (plan.device premium volumeId,
              (plan.mountedPaths world.mounter.table volumeId).card)),
          world.mounter) ∧
      ∀ message request,
        NodeExpand.Request.ofMessage message = .ok request →
          request.volumePath = path →
            Resized world (plan.device premium volumeId) path
              (served settings premium (.expand message) world).2 := by
  have hTraced := (Traced.start hPlan hStart).run hRun
  have hSteps :
      Relation.ReflTransGen (Step settings premium) start world :=
    hRun.lift id fun _ _ hStep => hStep.forget
  rcases ((Orderly.start hStart).run hSteps).ledger with
    ⟨_, _, hLedger⟩
  have hFound :=
    hTraced.deviceMountedAt hPlan hLedger.apart hPath hListed
  refine ⟨?_, fun message request hRead hVolumePath => ?_⟩
  · rw [Mounter.answer, hFound]
  · subst hVolumePath
    refine Yields.after (Yields.procedure (.inl rfl) ?_)
    intro other hOther
    rw [hRead] at hOther
    cases hOther
    exact expand_yields hFound

namespace TwoPaths

/- The device of the first volume. -/
def disk : Path := ⟨"/dev/disk/by-id/virtio-vol-1"⟩

/- One volume has two paths, and another one has a third. -/
def owners : Plan :=
  .ofRows
    [([.root, .name "staged"], ⟨.staging, "vol-1"⟩),
      ([.root, .name "target"], ⟨.target, "vol-1"⟩),
      ([.root, .name "other"], ⟨.staging, "vol-2"⟩)]
    fun _ => ({} : Settings).diskType

/- The device has a filesystem, and nothing is mounted. -/
def initial : World :=
  { mounter := { paths := [disk], formats := [(disk, "ext4")] }
    tree :=
      { entries :=
          [(["staged"], .directory), (["target"], .directory)] } }

/- The volume is staged. -/
def first : World :=
  { initial with
    mounter :=
      withPoint initial.mounter
        { device := disk
          path := ⟨"/staged"⟩
          filesystem := "ext4" } }

/- Then the volume is published. -/
def second : World :=
  { first with
    mounter :=
      withPoint first.mounter
        { device := disk
          path := ⟨"/target"⟩
          filesystem := ""
          options := ["bind"] } }

theorem leadsTo_staged :
    initial.tree.LeadsTo ⟨"/staged"⟩ ["staged"] :=
  FileTree.leadsTo_of_name rfl rfl rfl (by decide) rfl

theorem leadsTo_target :
    initial.tree.LeadsTo ⟨"/target"⟩ ["target"] :=
  FileTree.leadsTo_of_name rfl rfl rfl (by decide) rfl

theorem sound :
    owners.Sound (.sequence .atStart .atEnd) initial.tree := by
  refine Plan.sound_ofRows ?_ (by decide +kernel)
  intro row hRow path hPath
  simp only [List.mem_cons, List.not_mem_nil, or_false] at hRow
  rcases hRow with rfl | rfl | rfl
  · exact ⟨_, FileTree.direct_of_name hPath nofun⟩
  · exact ⟨_, FileTree.direct_of_name hPath nofun⟩
  · exact ⟨_, FileTree.direct_of_name hPath nofun⟩

theorem served_first :
    served {} (.sequence .atStart .atEnd)
        (.stage (plainStage "vol-1" "/staged" [])) initial =
      (.ok .staged, first) :=
  Eq.trans
    (served_plainStage rfl rfl leadsTo_staged rfl
      (hasPath_of_isIn (by decide)) (by decide) rfl rfl)
    rfl

theorem served_second :
    served {} (.sequence .atStart .atEnd)
        (.publish (plainPublish "vol-1" "/staged" "/target" false))
        first =
      (.ok .published, second) := by
  have hSource :
      ((pointAt? first.mounter.table ⟨"/staged"⟩).map
        (·.device)).getD ⟨"/staged"⟩ = disk := by
    decide
  exact Eq.trans
    (served_plainPublish rfl rfl leadsTo_staged rfl rfl
      (FileTree.isDirectory_root _) leadsTo_target rfl (by decide) hSource)
    rfl

/- Both calls go by the owners. -/
theorem reaches :
    Relation.ReflTransGen
      (owners.Step {} (.sequence .atStart .atEnd)) initial second := by
  have hFirst :
      owners.Step {} (.sequence .atStart .atEnd) initial first := by
    refine .of_served served_first fun request hRead => ?_
    rw [plainStage_read rfl rfl leadsTo_staged] at hRead
    cases hRead
    exact ⟨rfl, rfl, nofun⟩
  have hSecond :
      owners.Step {} (.sequence .atStart .atEnd) first second := by
    refine .of_served served_second
      fun request staging hRead hStaging => ?_
    have hPlain :
        Csi.NodePublish.Request.ofMessage first.tree.isDirectory
            (plainPublish "vol-1" "/staged" "/target" false) =
          .ok (plainPublishRequest "vol-1" "/staged" "/target"
            false) :=
      plainPublish_read rfl rfl leadsTo_staged rfl rfl
        (FileTree.isDirectory_root _)
    cases Except.ok.inj (hPlain.symm.trans hRead)
    cases hStaging
    exact ⟨rfl, rfl, ⟨_, List.mem_singleton.mpr rfl, .refl _⟩⟩
  exact .tail (.single hFirst) hSecond

end TwoPaths

/-
  A volume is staged and published, while another volume would
  have a path of its own.
-/
theorem mounted_path_leads_to_device_two_paths :
    let device := TwoPaths.disk
    let plan := TwoPaths.owners
    let start := TwoPaths.initial
    ∃ world,
      plan.Sound (.sequence .atStart .atEnd) start.tree ∧
      start.mounter.table = [] ∧
      Relation.ReflTransGen
        (plan.Step {} (.sequence .atStart .atEnd)) start world ∧
      plan.volumeAt? (Path.mk "/target").components = some "vol-1" ∧
      Listed world.mounter.table ⟨"/target"⟩ ∧
      world.mounter.answer world.tree (.deviceMountedAt ⟨"/target"⟩) =
        (.ok (some (device, 2)), world.mounter) ∧
      Resized world device ⟨"/target"⟩
        (served {} (.sequence .atStart .atEnd)
          (.expand (plainExpand "vol-1" "/target")) world).2 := by
  intro device plan start
  have hListed : Listed TwoPaths.second.mounter.table ⟨"/target"⟩ :=
    ⟨_, List.mem_append_right _ (List.mem_singleton.mpr rfl), .refl _⟩
  have hPath :
      plan.volumeAt? (Path.mk "/target").components = some "vol-1" :=
    rfl
  have hDevice :
      plan.device (.sequence .atStart .atEnd) "vol-1" = device := by
    decide +kernel
  have hCard :
      (plan.mountedPaths TwoPaths.second.mounter.table "vol-1").card =
        2 := by
    decide +kernel
  have hExpand :
      NodeExpand.Request.ofMessage (plainExpand "vol-1" "/target") =
        .ok (plainExpandRequest "vol-1" "/target") :=
    plainExpand_read (by decide) rfl
  rcases mounted_path_leads_to_device TwoPaths.sound rfl
      TwoPaths.reaches hPath hListed with
    ⟨hFound, hResized⟩
  rw [hDevice] at hFound hResized
  rw [hCard] at hFound
  exact ⟨_, TwoPaths.sound, rfl, TwoPaths.reaches, hPath, hListed,
    hFound, hResized _ _ hExpand rfl⟩

------------------------------------------------------------
-- Calls Against Every Plan
------------------------------------------------------------

namespace TwoDevices

/- The devices of two volumes. -/
def one : Path := ⟨"/dev/disk/by-id/virtio-vol-1"⟩

def two : Path := ⟨"/dev/disk/by-id/virtio-vol-2"⟩

/- Both have a filesystem, and nothing is mounted. -/
def mounter : Mounter :=
  { paths := [one, two]
    formats := [(one, "ext4"), (two, "ext4")] }

end TwoDevices

namespace DeletedName

open TwoDevices (mounter one)

/- A directory has the name of another one if deleted. -/
def initial : World :=
  { mounter := mounter
    tree :=
      { entries :=
          [(["a"], .directory), (["a\\040(deleted)"], .directory),
            (["target"], .directory)] } }

/- The first volume is staged at that directory. -/
def first : World :=
  { initial with
    mounter :=
      withPoint mounter
        { device := one
          path := ⟨"/a\\040(deleted)"⟩
          filesystem := "ext4" } }

/- The staging path of the other one is mounted at its target. -/
def second : World :=
  { first with
    mounter :=
      withPoint first.mounter
        { device := ⟨"/a"⟩
          path := ⟨"/target"⟩
          filesystem := ""
          options := ["bind"] } }

theorem leadsTo_deleted :
    initial.tree.LeadsTo ⟨"/a\\040(deleted)"⟩ ["a\\040(deleted)"] :=
  FileTree.leadsTo_of_name rfl rfl rfl (by decide) rfl

theorem leadsTo_staged :
    initial.tree.LeadsTo ⟨"/a"⟩ ["a"] :=
  FileTree.leadsTo_of_name rfl rfl rfl (by decide) rfl

theorem leadsTo_target :
    initial.tree.LeadsTo ⟨"/target"⟩ ["target"] :=
  FileTree.leadsTo_of_name rfl rfl rfl (by decide) rfl

theorem served_first :
    served {} (.sequence .atStart .atEnd)
        (.stage (plainStage "vol-1" "/a\\040(deleted)" [])) initial =
      (.ok .staged, first) :=
  Eq.trans
    (served_plainStage rfl rfl leadsTo_deleted rfl
      (hasPath_of_isIn (by decide)) (by decide) rfl rfl)
    rfl

/- The directory is taken to be deleted, but mounted. -/
theorem isMounted_staged :
    first.mounter.isMounted first.tree ⟨"/a"⟩ = .ok true := by
  have hLeads : first.tree.LeadsTo ⟨"/a"⟩ ["a"] := leadsTo_staged
  rw [isMounted_of_leadsTo rfl hLeads]
  decide

theorem served_again :
    served {} (.sequence .atStart .atEnd)
        (.stage (plainStage "vol-2" "/a" [])) first =
      (.ok .staged, first) :=
  served_plainStage_again rfl rfl leadsTo_staged rfl
    (hasPath_of_isIn (by decide)) (by decide) (by decide)

theorem served_second :
    served {} (.sequence .atStart .atEnd)
        (.publish (plainPublish "vol-2" "/a" "/target" false))
        first =
      (.ok .published, second) := by
  have hSource :
      ((pointAt? first.mounter.table ⟨"/a"⟩).map
        (·.device)).getD ⟨"/a"⟩ = ⟨"/a"⟩ := by
    decide
  exact Eq.trans
    (served_plainPublish rfl rfl leadsTo_staged rfl rfl
      (FileTree.isDirectory_root _) leadsTo_target rfl (by decide) hSource)
    rfl

theorem deviceMountedAt_target :
    Mount.deviceMountedAt second.mounter.table
        (second.tree.canonicalOrSelf ⟨"/target"⟩).raw =
      some (⟨"/a"⟩, 1) := by
  have hLeads : second.tree.LeadsTo ⟨"/target"⟩ ["target"] :=
    leadsTo_target
  rw [hLeads.canonicalOrSelf, Mount.deviceMountedAt_raw]
  decide

/- A directory is resized instead of a device. -/
theorem log_served_expand :
    (served {} (.sequence .atStart .atEnd)
        (.expand (plainExpand "vol-2" "/target"))
        second).2.mounter.log =
      second.mounter.log ++ [.resized none ⟨"/a"⟩ ⟨"/target"⟩] := by
  have hExpand :
      NodeExpand.Request.ofMessage (plainExpand "vol-2" "/target") =
        .ok (plainExpandRequest "vol-2" "/target") :=
    plainExpand_read (by decide) rfl
  have hNone : second.mounter.format? ⟨"/a"⟩ = none := by decide
  rw [served_expand rfl hExpand rfl deviceMountedAt_target rfl
    (by decide)]
  exact congrArg
    (fun filesystem =>
      second.mounter.log ++ [.resized filesystem ⟨"/a"⟩ ⟨"/target"⟩])
    hNone

end DeletedName

namespace DeviceAsTarget

open TwoDevices (mounter one two)

/- The device of the second volume is a directory. -/
def initial : World :=
  { mounter := mounter
    tree :=
      { entries :=
          [(["dev"], .directory), (["dev", "disk"], .directory),
            (["dev", "disk", "by-id"], .directory),
            (["dev", "disk", "by-id", "virtio-vol-2"], .directory),
            (["staged"], .directory)] } }

/- The first volume is staged there. -/
def first : World :=
  { initial with
    mounter :=
      withPoint mounter
        { device := one, path := two, filesystem := "ext4" } }

/- The second volume is staged as a bind mount of its device. -/
def second : World :=
  { first with
    mounter :=
      withPoint first.mounter
        { device := one
          path := ⟨"/staged"⟩
          filesystem := "ext4"
          options := ["bind"] } }

theorem leadsTo_device :
    initial.tree.LeadsTo two ["dev", "disk", "by-id", "virtio-vol-2"] := by
  have hWay :
      initial.tree.Enters FileTree.linkLimit []
        ["", "dev", "disk", "by-id", "virtio-vol-2"]
        FileTree.linkLimit ["dev", "disk", "by-id", "virtio-vol-2"] :=
    .stay (.inl rfl)
      (.into (by decide) rfl
        (.into (by decide) rfl
          (.into (by decide) rfl (.into (by decide) rfl .here))))
  have hPieces :
      two.pieces = ["", "dev", "disk", "by-id", "virtio-vol-2"] := by
    decide
  refine ⟨by decide, rfl, FileTree.linkLimit, ?_⟩
  rw [FileTree.startOf_of_isAbsolute (by decide), hPieces]
  exact hWay

theorem leadsTo_staged :
    initial.tree.LeadsTo ⟨"/staged"⟩ ["staged"] :=
  FileTree.leadsTo_of_name rfl rfl rfl (by decide) rfl

theorem served_first :
    served {} (.sequence .atStart .atEnd)
        (.stage (plainStage "vol-1" two.text [])) initial =
      (.ok .staged, first) :=
  Eq.trans
    (served_plainStage rfl (by decide) leadsTo_device rfl
      (hasPath_of_isIn (by decide)) (by decide) rfl rfl)
    rfl

/- A bind mount of the device is one of what is mounted there. -/
theorem served_second :
    served {} (.sequence .atStart .atEnd)
        (.stage (plainStage "vol-2" "/staged" ["bind"])) first =
      (.ok .staged, second) := by
  have hSource :
      first.mounter.sourceDevice first.tree two ["bind"] = one := by
    have hLeads : first.tree.LeadsTo two _ := leadsTo_device
    rw [sourceDevice_of_leadsTo hLeads (by decide)]
    decide
  exact Eq.trans
    (served_plainStage rfl rfl leadsTo_staged rfl
      (hasPath_of_isIn (by decide)) (by decide) (by decide) hSource)
    rfl

theorem deviceMountedAt_staged :
    Mount.deviceMountedAt second.mounter.table
        (second.tree.canonicalOrSelf ⟨"/staged"⟩).raw =
      some (one, 2) := by
  have hLeads : second.tree.LeadsTo ⟨"/staged"⟩ ["staged"] :=
    leadsTo_staged
  rw [hLeads.canonicalOrSelf, Mount.deviceMountedAt_raw]
  decide

end DeviceAsTarget

/-
  A volume is staged beside a directory with the name that it
  would have if it was deleted, at which another volume is
  mounted. It is taken to be mounted there already, and when
  it is published, its staging path is mounted instead of its
  device. A volume whose device is itself a mount point leads
  to another device, too, if it is staged as a bind mount.
-/
theorem mounted_path_leads_to_other_device :
    (DeletedName.initial.mounter.table = [] ∧
      ∃ middle after,
        served {} (.sequence .atStart .atEnd)
            (.stage (plainStage "vol-1" "/a\\040(deleted)" []))
            DeletedName.initial =
          (.ok .staged, middle) ∧
        served {} (.sequence .atStart .atEnd)
            (.stage (plainStage "vol-2" "/a" [])) middle =
          (.ok .staged, middle) ∧
        middle.mounter.isMounted middle.tree ⟨"/a"⟩ = .ok true ∧
        served {} (.sequence .atStart .atEnd)
            (.publish (plainPublish "vol-2" "/a" "/target" false))
            middle =
          (.ok .published, after) ∧
        Listed after.mounter.table ⟨"/target"⟩ ∧
        after.mounter.answer after.tree (.deviceMountedAt ⟨"/target"⟩) =
          (.ok (some (⟨"/a"⟩, 1)), after.mounter) ∧
        (served {} (.sequence .atStart .atEnd)
            (.expand (plainExpand "vol-2" "/target"))
            after).2.mounter.log =
          after.mounter.log ++ [.resized none ⟨"/a"⟩ ⟨"/target"⟩]) ∧
    DeviceAsTarget.initial.mounter.table = [] ∧
      ∃ middle after,
        served {} (.sequence .atStart .atEnd)
            (.stage (plainStage "vol-1" TwoDevices.two.text []))
            DeviceAsTarget.initial =
          (.ok .staged, middle) ∧
        served {} (.sequence .atStart .atEnd)
            (.stage (plainStage "vol-2" "/staged" ["bind"])) middle =
          (.ok .staged, after) ∧
        after.mounter.answer after.tree (.deviceMountedAt ⟨"/staged"⟩) =
          (.ok (some (TwoDevices.one, 2)), after.mounter) := by
  constructor
  · refine ⟨rfl, DeletedName.first, DeletedName.second,
      DeletedName.served_first, DeletedName.served_again,
      DeletedName.isMounted_staged, DeletedName.served_second, ?_, ?_,
      DeletedName.log_served_expand⟩
    · exact ⟨_, List.mem_append_right _ (List.mem_singleton.mpr rfl),
        .refl _⟩
    · exact congrArg
        (fun found =>
          (Except.ok found, DeletedName.second.mounter))
        DeletedName.deviceMountedAt_target
  · refine ⟨rfl, DeviceAsTarget.first, DeviceAsTarget.second,
      DeviceAsTarget.served_first, DeviceAsTarget.served_second, ?_⟩
    exact congrArg
      (fun found =>
        (Except.ok found, DeviceAsTarget.second.mounter))
      DeviceAsTarget.deviceMountedAt_staged

end Mounting

end BlockVolumes
