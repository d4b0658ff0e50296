import BlockVolumes.Proofs.Files.Direct
import BlockVolumes.Proofs.Mounting.Consistency
import BlockVolumes.Proofs.Mounting.Publishing
import Mathlib.Data.Finset.Card

/-
  Which device is behind a path. Where each path belongs to one
  volume and each volume has one device, every entry of the
  mount table has the device of the volume that its path
  belongs to, and it keeps to this as volumes are staged,
  unstaged, published and unpublished.

  Bind mounts are resolved when they are made. A published path
  therefore does not depend on its staging path any more.

  Key definitions include:
    * `Mounting.Plan`
    * `Mounting.Plan.Sound`
    * `Mounting.Plan.ofRows`
    * `Mounting.Plan.Admits`
    * `Mounting.Plan.Step`
    * `Mounting.Traced`

  Key theorems include:
    * `Mounting.Traced.mount`
    * `Mounting.Traced.step`
    * `Mounting.Traced.deviceMountedAt`
-/

namespace BlockVolumes

namespace Mounting

open Memory (Mounter World)
open Memory.World (Alike Yields)
open Mount (Point pointAt?)

------------------------------------------------------------
-- Plans
------------------------------------------------------------

/- What a path is used for. -/
inductive Role where
  | staging
  | target
  deriving DecidableEq, Repr

/- A volume and what it uses a path for. -/
structure Owner where
  role : Role
  volumeId : String
  deriving DecidableEq, Repr

/-
  A plan of the paths of volumes. A path has one owner at most,
  however it is spelled, and a volume has one disk type.
-/
structure Plan where
  owner : List Path.Component → Option Owner
  diskType : String → String

namespace Plan

/- The volume that a path belongs to. -/
def volumeAt?
    (plan : Plan)
    (components : List Path.Component) : Option String :=
  (plan.owner components).map (·.volumeId)

/- The device of a volume. -/
def device
    (plan : Plan)
    (premium : Pattern)
    (volumeId : String) : Path :=
  Service.Device.path premium volumeId (plan.diskType volumeId)

/- The paths of a volume at which something is mounted. -/
def mountedPaths
    (plan : Plan)
    (table : List Point)
    (volumeId : String) : Finset (List Path.Component) :=
  (table.map (·.path.components)).toFinset.filter
    fun components => plan.volumeAt? components = some volumeId

variable {plan : Plan}
variable {table : List Point}
variable {path : Path}
variable {volumeId : String}

theorem volumeAt?_of_owner
    {owner : Owner}
    (h : plan.owner path.components = some owner) :
    plan.volumeAt? path.components = some owner.volumeId := by
  rw [volumeAt?, h]
  rfl

/-
  Whether the paths of a plan lead past no links, and the
  devices of its volumes are different.
-/
structure Sound
    (plan : Plan)
    (premium : Pattern)
    (tree : FileTree) : Prop where
  direct :
    ∀ path volumeId,
      plan.volumeAt? path.components = some volumeId →
        ∃ place, tree.Direct path place
  apart :
    ∀ (path other : Path) volumeId otherId,
      plan.volumeAt? path.components = some volumeId →
        plan.volumeAt? other.components = some otherId →
          Path.Same (plan.device premium volumeId)
              (plan.device premium otherId) →
            volumeId = otherId

/- A plan that lists its paths. -/
def ofRows
    (rows : List (List Path.Component × Owner))
    (diskType : String → String) : Plan :=
  { owner := fun components =>
      (rows.find? fun row => decide (row.1 = components)).map (·.2)
    diskType := diskType }

theorem row_of_volumeAt?
    {rows : List (List Path.Component × Owner)}
    {diskType : String → String}
    {components : List Path.Component}
    (h : (ofRows rows diskType).volumeAt? components = some volumeId) :
    ∃ row ∈ rows, row.1 = components ∧ row.2.volumeId = volumeId := by
  simp only [volumeAt?, ofRows, Option.map_eq_some_iff] at h
  rcases h with ⟨owner, ⟨row, hRow, rfl⟩, hVolume⟩
  have hFound := List.find?_some hRow
  exact ⟨row, List.mem_of_find?_eq_some hRow,
    of_decide_eq_true hFound, hVolume⟩

/- It is enough to look at the rows. -/
theorem sound_ofRows
    {rows : List (List Path.Component × Owner)}
    {diskType : String → String}
    {premium : Pattern}
    {tree : FileTree}
    (hDirect :
      ∀ row ∈ rows, ∀ path : Path, path.components = row.1 →
        ∃ place, tree.Direct path place)
    (hApart :
      ∀ row ∈ rows, ∀ other ∈ rows,
        Path.Same
            ((ofRows rows diskType).device premium row.2.volumeId)
            ((ofRows rows diskType).device premium
              other.2.volumeId) →
          row.2.volumeId = other.2.volumeId) :
    (ofRows rows diskType).Sound premium tree := by
  constructor
  · intro path volumeId hPath
    rcases row_of_volumeAt? hPath with ⟨row, hRow, hSame, _⟩
    exact hDirect row hRow path hSame.symm
  · intro path other volumeId otherId hPath hOther hDevice
    rcases row_of_volumeAt? hPath with ⟨row, hRow, _, rfl⟩
    rcases row_of_volumeAt? hOther with ⟨next, hNext, _, rfl⟩
    exact hApart row hRow next hNext hDevice

------------------------------------------------------------
-- Calls by a Plan
------------------------------------------------------------

/-
  Whether a volume is staged by a plan. A device that is not
  mounted as such, but as a directory, is none that something
  is mounted at.
-/
structure AdmitsStage
    (plan : Plan)
    (settings : Settings)
    (premium : Pattern)
    (world : World)
    (request : Csi.NodeStage.Request) : Prop where
  owner :
    plan.owner request.stagingPath.components =
      some ⟨.staging, request.volumeId⟩
  diskType :
    Service.Mounting.diskTypeOf settings request.context =
      plan.diskType request.volumeId
  source :
    "bind" ∈
        (Service.Mounting.planStage settings premium request).flags →
      ¬ Listed world.mounter.table
        (world.tree.canonicalOrSelf
          (plan.device premium request.volumeId))

/- Whether a volume is published by a plan, from a mount. -/
structure AdmitsPublish
    (plan : Plan)
    (world : World)
    (request : Csi.NodePublish.Request)
    (staging : Path) : Prop where
  target :
    plan.owner request.targetPath.components =
      some ⟨.target, request.volumeId⟩
  source :
    plan.owner staging.components = some ⟨.staging, request.volumeId⟩
  staged : Listed world.mounter.table staging

/-
  Whether a message is about mounts and keeps to a plan. What
  is not read or says no staging path does not matter, and
  mounts may be ended anywhere.
-/
def Admits
    (plan : Plan)
    (settings : Settings)
    (premium : Pattern)
    (world : World) : Csi.Node.Message → Prop
  | .stage message =>
      ∀ request,
        Csi.NodeStage.Request.ofMessage world.tree.isDirectory
            message = .ok request →
          plan.AdmitsStage settings premium world request
  | .publish message =>
      ∀ request staging,
        Csi.NodePublish.Request.ofMessage world.tree.isDirectory
            message = .ok request →
          request.stagingPath = some staging →
            plan.AdmitsPublish world request staging
  | message => ConcernsMounts message

/-
  A step of a run by a plan: a call that keeps to it, or a
  change of anything but the mounts and the tree.
-/
inductive Step
    (plan : Plan)
    (settings : Settings)
    (premium : Pattern) : World → World → Prop where
  | call
      {world : World}
      (message : Csi.Node.Message)
      (hMessage : plan.Admits settings premium world message) :
      Step plan settings premium world
        (served settings premium message world).2
  | drift
      {world after : World}
      (hTree : after.tree = world.tree)
      (hTable : after.mounter.table = world.mounter.table)
      (hLog : after.mounter.log = world.mounter.log) :
      Step plan settings premium world after

variable {settings : Settings}
variable {premium : Pattern}
variable {world after : World}

theorem Admits.concernsMounts
    {message : Csi.Node.Message}
    (h : plan.Admits settings premium world message) :
    ConcernsMounts message := by
  cases message with
  | stage => trivial
  | publish => trivial
  | _ => exact h

theorem Step.of_served
    {message : Csi.Node.Message}
    {answer : Except Rpc.Status Csi.Node.Answer}
    (h : served settings premium message world = (answer, after))
    (hMessage : plan.Admits settings premium world message) :
    plan.Step settings premium world after := by
  have hStep :
      plan.Step settings premium world
        (served settings premium message world).2 :=
    .call message hMessage
  rw [h] at hStep
  exact hStep

theorem Step.forget
    (h : plan.Step settings premium world after) :
    Mounting.Step settings premium world after := by
  cases h with
  | call message hMessage => exact .call message hMessage.concernsMounts
  | drift hTree hTable hLog => exact .drift hTree hTable hLog

end Plan

------------------------------------------------------------
-- Programs That Leave Mounts as They Are
------------------------------------------------------------

variable {settings : Settings}
variable {premium : Pattern}
variable {world now after : World}
variable {operation asking ending volumeId : String}
variable {path : Path}

/- Whether the tree and the mount table are as they were. -/
structure Unmoved
    (world after : World) : Prop where
  tree : after.tree = world.tree
  table : after.mounter.table = world.mounter.table

namespace Unmoved

theorem refl
    (world : World) :
    Unmoved world world :=
  ⟨rfl, rfl⟩

theorem of_alike
    (h : Unmoved world now)
    (hAlike : Alike now after) :
    Unmoved world after :=
  ⟨hAlike.tree.trans h.tree, by rw [hAlike.mounter, h.table]⟩

theorem call
    {call : Mount.Call}
    (h : Unmoved world now)
    (hQuiet : Mounter.IsQuiet call) :
    Yields (Service.Mounting.call operation volumeId call) now
      (fun _ => Unmoved world) (Unmoved world) := by
  have hAnswer :
      ∀ {reply : call.Reply} {later : World},
        later.tree = now.tree →
          now.mounter.answer now.tree call = (reply, later.mounter) →
            Unmoved world later := by
    intro reply later hTree hAnswer
    have hMounter := (Prod.mk.inj hAnswer).2
    refine ⟨hTree.trans h.tree, ?_⟩
    rw [← hMounter]
    exact (Mounter.table_of_call hQuiet).trans h.table
  refine Yields.mapError (.mounter ?_ ?_ ?_)
  · exact fun later hTree hSame => h.of_alike ⟨hTree, hSame⟩
  · exact fun _ later hTree hReply => hAnswer hTree hReply
  · exact fun _ later hTree hReply => hAnswer hTree hReply

theorem findDevice
    {settle : Duration}
    {device : Path}
    (h : Unmoved world now) :
    Yields (Service.Mounting.findDevice settle volumeId device) now
      (fun _ => Unmoved world) (Unmoved world) := by
  have hLook :
      ∀ {later : World}, Unmoved world later →
        Yields (Service.Mounting.deviceExists volumeId device) later
          (fun _ => Unmoved world) (Unmoved world) :=
    fun hLater => hLater.call trivial
  refine Yields.bind (hLook h) fun found later hLater => ?_
  cases found with
  | true => exact Yields.done hLater
  | false =>
      refine Yields.bind (hLater.call trivial) fun _ last hLast => ?_
      refine Yields.perform ?_
      have hAwake :
          Unmoved world { last with clock := last.clock + settle.pause } :=
        ⟨hLast.tree, hLast.table⟩
      exact hLook hAwake

theorem formatIfBlank
    {staging : Service.Mounting.StagePlan}
    (h : Unmoved world now) :
    Yields (Service.Mounting.formatIfBlank volumeId staging) now
      (fun _ => Unmoved world) (Unmoved world) := by
  unfold Service.Mounting.formatIfBlank
  split
  · exact Yields.done h
  · refine Yields.bind (h.call trivial) fun formatted later hLater => ?_
    cases formatted with
    | true => exact Yields.done hLater
    | false => exact hLater.call trivial

theorem isMounted
    (h : Unmoved world now) :
    Yields (Service.Mounting.isMounted operation volumeId path) now
      (fun _ => Unmoved world) (Unmoved world) :=
  h.call trivial

end Unmoved

------------------------------------------------------------
-- Tables by a Plan
------------------------------------------------------------

variable {plan : Plan}

/-
  Whether the paths of a plan lead past no links, and each
  entry has the device of the volume of its path.
-/
structure Traced
    (plan : Plan)
    (premium : Pattern)
    (world : World) : Prop where
  direct :
    ∀ path volumeId,
      plan.volumeAt? path.components = some volumeId →
        ∃ place, world.tree.Direct path place
  devices :
    ∀ point ∈ world.mounter.table,
      ∃ volumeId,
        plan.volumeAt? point.path.components = some volumeId ∧
          point.device = plan.device premium volumeId

/- A device is mounted as it is where nothing is mounted at it. -/
theorem sourceDevice_of_free
    {mounter : Mounter}
    {tree : FileTree}
    {source : Path}
    {options : List String}
    (hFree :
      "bind" ∈ options →
        ¬ Listed mounter.table (tree.canonicalOrSelf source)) :
    mounter.sourceDevice tree source options = source := by
  unfold Mounter.sourceDevice
  split
  · next hBind =>
      have hNone := mt pointAt_isSome_iff.mp (hFree hBind)
      rw [Option.not_isSome_iff_eq_none.mp hNone]
  · rfl

namespace Traced

theorem start
    (hPlan : plan.Sound premium world.tree)
    (hTable : world.mounter.table = []) :
    Traced plan premium world := by
  refine ⟨hPlan.direct, ?_⟩
  rw [hTable]
  exact nofun

theorem of_unmoved
    (h : Traced plan premium world)
    (hSame : Unmoved world after) :
    Traced plan premium after := by
  constructor
  · rw [hSame.tree]
    exact h.direct
  · rw [hSame.table]
    exact h.devices

/- No links are added, and entries are only taken away. -/
theorem shrink
    (h : Traced plan premium world)
    (hLinks : FileTree.KeepsLinks world.tree after.tree)
    (hTable : after.mounter.table ⊆ world.mounter.table) :
    Traced plan premium after := by
  refine ⟨fun path volumeId hPath => ?_, fun point hMem =>
    h.devices point (hTable hMem)⟩
  rcases h.direct path volumeId hPath with ⟨place, hDirect⟩
  exact ⟨place, hDirect.of_keepsLinks hLinks⟩

/- The paths of a plan are their own canonical paths. -/
theorem canonicalOrSelf
    (h : Traced plan premium world)
    (hPath : plan.volumeAt? path.components = some volumeId) :
    Path.Same (world.tree.canonicalOrSelf path) path := by
  rcases h.direct path volumeId hPath with ⟨place, hDirect⟩
  exact hDirect.canonicalOrSelf_same

/- An entry at a path has the device of the volume of the path. -/
theorem device_of_same
    {point : Point}
    (h : Traced plan premium world)
    (hMem : point ∈ world.mounter.table)
    (hSame : Path.Same point.path path)
    (hPath : plan.volumeAt? path.components = some volumeId) :
    point.device = plan.device premium volumeId := by
  rcases h.devices point hMem with ⟨otherId, hOther, hDevice⟩
  have hEq : point.path.components = path.components := hSame
  rw [hEq, hPath, Option.some.injEq] at hOther
  rw [hDevice, hOther]

/- The first entry at a path is one with the right device. -/
theorem pointAt
    (h : Traced plan premium world)
    (hPath : plan.volumeAt? path.components = some volumeId)
    (hListed : Listed world.mounter.table path) :
    ∃ point,
      pointAt? world.mounter.table
          (world.tree.canonicalOrSelf path) = some point ∧
        point.device = plan.device premium volumeId := by
  have hSelf := h.canonicalOrSelf hPath
  have hSome := pointAt_isSome_iff.mpr (hListed.of_same hSelf.symm)
  rcases Option.isSome_iff_exists.mp hSome with ⟨point, hPoint⟩
  have hFound := List.find?_some hPoint
  have hSame := (of_decide_eq_true hFound).trans hSelf
  exact ⟨point, hPoint,
    h.device_of_same (List.mem_of_find?_eq_some hPoint) hSame hPath⟩

------------------------------------------------------------
-- Mounting and Unmounting
------------------------------------------------------------

/- A volume is mounted at a path of its own, by its own device. -/
theorem mount
    {source : Path}
    {filesystem : String}
    {options sensitive : List String}
    (h : Traced plan premium world)
    (hPath : plan.volumeAt? path.components = some volumeId)
    (hDevice :
      world.mounter.sourceDevice world.tree source options =
        plan.device premium volumeId) :
    Yields
      (Service.Mounting.call operation volumeId
        (.mount (some source) path filesystem options sensitive))
      world (fun _ => Traced plan premium) (Traced plan premium) := by
  refine Yields.mapError (.mounter ?_ ?_ ?_)
  · intro later hTree hSame
    exact h.of_unmoved ⟨hTree, by rw [hSame]⟩
  · intro _ later hTree hAnswer
    have hMounter := (Prod.mk.inj hAnswer).2
    refine ⟨?_, ?_⟩
    · rw [hTree]
      exact h.direct
    · rw [← hMounter]
      intro point hMem
      rcases List.mem_append.mp hMem with hOld | hNew
      · exact h.devices point hOld
      · rw [List.mem_singleton.mp hNew]
        refine ⟨volumeId, ?_, hDevice⟩
        have hSame := h.canonicalOrSelf hPath
        exact (congrArg plan.volumeAt? hSame).trans hPath
  · intro _ _ _ hAnswer
    simp [Mounter.answer, Mounter.mount] at hAnswer

/- What leaves the mounts as they are leaves devices traced. -/
theorem quiet
    {ε α : Type}
    {program : Program Host ε α}
    (h : Traced plan premium world)
    (hQuiet :
      Yields program world (fun _ => Unmoved world) (Unmoved world)) :
    Yields program world (fun _ => Unmoved world)
      (Traced plan premium) :=
  ⟨hQuiet.1, fun e later hRun => h.of_unmoved (hQuiet.2 e later hRun)⟩

/- Ending mounts does no harm, wherever it is done. -/
theorem unmount
    (h : Traced plan premium world) :
    Yields
      (Service.Mounting.call operation volumeId (.unmount path none))
      world (fun _ => Traced plan premium) (Traced plan premium) := by
  refine Yields.mapError (.mounter ?_ ?_ ?_)
  · intro later hTree hSame
    exact h.of_unmoved ⟨hTree, by rw [hSame]⟩
  · intro _ later hTree hAnswer
    have hMounter := (Prod.mk.inj hAnswer).2
    refine h.shrink ?_ ?_
    · rw [hTree]
      exact fun _ _ hLink => hLink
    · rw [← hMounter]
      exact List.eraseP_subset
  · intro _ _ _ hAnswer
    simp [Mounter.answer] at hAnswer

theorem unmountIfMounted
    (h : Traced plan premium world) :
    Yields
      (Service.Mounting.unmountIfMounted asking ending volumeId path)
      world (fun _ => Traced plan premium) (Traced plan premium) := by
  refine Yields.bind (h.quiet (Unmoved.refl world).isMounted) ?_
  intro mounted later hLater
  have hTraced := h.of_unmoved hLater
  cases mounted with
  | true => exact hTraced.unmount
  | false => exact Yields.done hTraced

theorem unstage
    {request : Csi.NodeUnstage.Request}
    (h : Traced plan premium world) :
    Yields (Service.Mounting.unstage request) world
      (fun _ => Traced plan premium) (Traced plan premium) :=
  Yields.exclusively (Yields.mapError h.unmountIfMounted)

theorem removeDirectory
    (h : Traced plan premium world) :
    Traced plan premium (world.removeDirectory path).2 := by
  unfold World.removeDirectory
  cases hRemoved : world.tree.removeDirectory path with
  | error failure => exact h
  | ok tree =>
      exact h.shrink (FileTree.keepsLinks_removeDirectory hRemoved)
        (List.Subset.refl _)

theorem unpublish
    {request : Csi.NodeUnpublish.Request}
    (h : Traced plan premium world) :
    Yields (Service.Mounting.unpublish request) world
      (fun _ => Traced plan premium) (Traced plan premium) := by
  refine Yields.bind (Yields.mapError h.unmountIfMounted) ?_
  intro _ later hLater
  exact Yields.perform (Yields.done hLater.removeDirectory)

------------------------------------------------------------
-- Staging
------------------------------------------------------------

/- The device of a volume is mounted at a path of the volume. -/
theorem mountStage
    {staging : Service.Mounting.StagePlan}
    (h : Traced plan premium world)
    (hPath : plan.volumeAt? path.components = some volumeId)
    (hDevice : staging.device = plan.device premium volumeId)
    (hFree :
      "bind" ∈ staging.flags →
        ¬ Listed world.mounter.table
          (world.tree.canonicalOrSelf staging.device)) :
    Yields (Service.Mounting.mountStage volumeId path staging) world
      (fun _ => Traced plan premium) (Traced plan premium) := by
  refine Yields.bind (h.quiet (Unmoved.refl world).formatIfBlank) ?_
  intro _ now hNow
  have hBlank := h.of_unmoved hNow
  refine Yields.bind (hBlank.quiet (Unmoved.refl now).isMounted) ?_
  intro mounted later hLater
  have hTraced := hBlank.of_unmoved hLater
  cases mounted with
  | true => exact Yields.done hTraced
  | false =>
      refine hTraced.mount hPath ?_
      rw [sourceDevice_of_free, hDevice]
      rw [hLater.tree, hLater.table, hNow.tree, hNow.table]
      exact hFree

theorem stage
    {request : Csi.NodeStage.Request}
    (h : Traced plan premium world)
    (hAdmits : plan.AdmitsStage settings premium world request) :
    Yields (Service.Mounting.stage settings premium request) world
      (fun _ => Traced plan premium) (Traced plan premium) := by
  have hDevice :
      (Service.Mounting.planStage settings premium request).device =
        plan.device premium request.volumeId :=
    congrArg (Service.Device.path premium request.volumeId)
      hAdmits.diskType
  refine Yields.checked h fun _ _ => ?_
  refine Yields.bind
    (Yields.mapError (h.quiet (Unmoved.refl world).findDevice)) ?_
  intro found now hNow
  have hTraced := h.of_unmoved hNow
  cases found with
  | false => exact Yields.failed hTraced
  | true =>
      refine Yields.exclusively (Yields.mapError ?_)
      refine hTraced.mountStage (Plan.volumeAt?_of_owner hAdmits.owner)
        hDevice ?_
      rw [hDevice, hNow.tree, hNow.table]
      exact hAdmits.source

------------------------------------------------------------
-- Publishing
------------------------------------------------------------

/- A bind mount takes the device of the volume of its source. -/
theorem sourceDevice
    {options : List String}
    (h : Traced plan premium world)
    (hBind : "bind" ∈ options)
    (hPath : plan.volumeAt? path.components = some volumeId)
    (hListed : Listed world.mounter.table path) :
    world.mounter.sourceDevice world.tree path options =
      plan.device premium volumeId := by
  rcases h.pointAt hPath hListed with ⟨point, hPoint, hDevice⟩
  rw [Mounter.sourceDevice, if_pos hBind, hPoint]
  exact hDevice

theorem mountTarget
    {request : Csi.NodePublish.Request}
    {staging parent : Path}
    (h : Traced plan premium world)
    (hParent : request.targetPath.parent? = some parent)
    (hAbove : world.tree.isDirectory parent = true)
    (hAdmits : plan.AdmitsPublish world request staging) :
    Yields (Service.Mounting.mountTarget request staging) world
      (fun _ => Traced plan premium) (Traced plan premium) := by
  refine Yields.bind (h.quiet (Unmoved.refl world).isMounted) ?_
  intro mounted now hNow
  have hTraced := h.of_unmoved hNow
  cases mounted with
  | true => exact Yields.done hTraced
  | false =>
      rw [← hNow.tree] at hAbove
      have hStaged := hAdmits.staged
      rw [← hNow.table] at hStaged
      have hMade :
          Traced plan premium
            (now.makeDirectories request.targetPath).2 :=
        hTraced.shrink
          (FileTree.keepsLinks_makeDirectories hParent hAbove)
          (List.Subset.refl _)
      refine makeDirectories_yields hMade fun _ => ?_
      exact hMade.mount (Plan.volumeAt?_of_owner hAdmits.target)
        (hMade.sourceDevice (bind_mem_publishOptions request)
          (Plan.volumeAt?_of_owner hAdmits.source) hStaged)

theorem publish
    {message : Csi.NodePublish.Message}
    {request : Csi.NodePublish.Request}
    (h : Traced plan premium world)
    (hRead : request.Reads world.tree.isDirectory message)
    (hAdmits :
      ∀ staging, request.stagingPath = some staging →
        plan.AdmitsPublish world request staging) :
    Yields (Service.Mounting.publish request) world
      (fun _ => Traced plan premium) (Traced plan premium) := by
  unfold Service.Mounting.publish
  cases hStaging : request.stagingPath with
  | none => exact Yields.failed h
  | some staging =>
      rcases hRead.above with ⟨parent, hParent, hAbove⟩
      refine Yields.checked h fun _ _ => ?_
      exact Yields.mapError
        (h.mountTarget hParent hAbove (hAdmits staging hStaging))

------------------------------------------------------------
-- Runs by a Plan
------------------------------------------------------------

/- Each call that keeps to the plan leaves devices traced. -/
theorem served
    {message : Csi.Node.Message}
    (h : Traced plan premium world)
    (hMessage : plan.Admits settings premium world message) :
    Traced plan premium (served settings premium message world).2 := by
  refine Yields.after ?_
  cases message with
  | stage message =>
      exact Yields.procedure h fun request hRead =>
        h.stage (hMessage request hRead)
  | unstage message =>
      exact Yields.procedure h fun request _ => h.unstage
  | publish message =>
      exact Yields.procedure h fun request hRead =>
        h.publish (Csi.NodePublish.Request.reads_of_ofMessage hRead)
          fun staging => hMessage request staging hRead
  | unpublish message =>
      exact Yields.procedure h fun request _ => h.unpublish
  | _ => exact hMessage.elim

theorem step
    (h : Traced plan premium world)
    (hStep : plan.Step settings premium world after) :
    Traced plan premium after := by
  cases hStep with
  | call message hMessage => exact h.served hMessage
  | drift hTree hTable => exact h.of_unmoved ⟨hTree, hTable⟩

theorem run
    (h : Traced plan premium world)
    (hRun :
      Relation.ReflTransGen (plan.Step settings premium) world after) :
    Traced plan premium after := by
  induction hRun with
  | refl => exact h
  | tail _ hStep ih => exact ih.step hStep

------------------------------------------------------------
-- Devices of Paths
------------------------------------------------------------

/-
  Where devices are different, the entries with the device of
  a volume are those at its paths.
-/
theorem usesOf_eq_card
    {tree : FileTree}
    (h : Traced plan premium world)
    (hPlan : plan.Sound premium tree)
    (hApart : Apart world.mounter.table)
    (hPath : plan.volumeAt? path.components = some volumeId) :
    Mount.usesOf world.mounter.table (plan.device premium volumeId) =
      (plan.mountedPaths world.mounter.table volumeId).card := by
  let owned : List Path.Component → Bool :=
    fun components => decide (plan.volumeAt? components = some volumeId)
  have hOwned :
      ∀ point ∈ world.mounter.table,
        decide (Path.Same point.device (plan.device premium volumeId)) =
          true ↔ owned point.path.components = true := by
    intro point hMem
    rcases h.devices point hMem with ⟨otherId, hOther, hDevice⟩
    simp only [owned, decide_eq_true_eq, hDevice, hOther,
      Option.some.injEq]
    constructor
    · exact hPlan.apart point.path path otherId volumeId hOther hPath
    · rintro rfl
      exact .refl _
  have hDistinct :
      (world.mounter.table.map (·.path.components)).Nodup :=
    List.pairwise_map.mpr hApart
  calc
    Mount.usesOf world.mounter.table (plan.device premium volumeId)
      = world.mounter.table.countP
          (fun point => owned point.path.components) :=
        List.countP_congr hOwned
    _ = ((world.mounter.table.map (·.path.components)).filter
          owned).length := by
        rw [← List.countP_eq_length_filter, List.countP_map]
        rfl
    _ = (plan.mountedPaths world.mounter.table volumeId).card := by
        rw [← List.toFinset_card_of_nodup (hDistinct.filter owned),
          List.toFinset_filter, Plan.mountedPaths]
        simp [owned]

/-
  The mounter finds the device of its volume at a path, with
  the number of paths at which the volume is mounted.
-/
theorem deviceMountedAt
    {tree : FileTree}
    (h : Traced plan premium world)
    (hPlan : plan.Sound premium tree)
    (hApart : Apart world.mounter.table)
    (hPath : plan.volumeAt? path.components = some volumeId)
    (hListed : Listed world.mounter.table path) :
    Mount.deviceMountedAt world.mounter.table
        (world.tree.canonicalOrSelf path).raw =
      some
        (plan.device premium volumeId,
          (plan.mountedPaths world.mounter.table volumeId).card) := by
  rcases h.pointAt hPath hListed with ⟨point, hPoint, hDevice⟩
  rw [Mount.deviceMountedAt_raw, hPoint, Option.map_some, hDevice,
    h.usesOf_eq_card hPlan hApart hPath]

end Traced

end Mounting

end BlockVolumes
