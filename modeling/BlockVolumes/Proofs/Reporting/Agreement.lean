import BlockVolumes.Proofs.Memory.Backend
import BlockVolumes.Proofs.Memory.World
import BlockVolumes.Service.Provisioner
import Mathlib.Data.List.Forall2

/-
  The list of all volumes and the reports on single ones. While
  the backend and the directory stay as they are and no call
  fails, both say the same of a volume, except that only the
  report on a single one looks at the nodes that use it.

  Key definitions include:
    * `Memory.World.Steady`
    * `Memory.World.Kept`
    * `Service.Reporting.Unready`
    * `Service.Reporting.Confirms`
    * `Service.Reporting.Agrees`

  Key theorems include:
    * `Service.Reporting.run_nodeCondition`
    * `Service.Reporting.confirms_of_stateOf`
    * `Service.Reporting.list_agrees_with_get`
-/

namespace BlockVolumes

/- Whether a volume is said to be out of order. -/
def Csi.VolumeState.abnormal
    (state : VolumeState) : Bool :=
  state.condition.any (·.abnormal)

------------------------------------------------------------
-- Steady Worlds
------------------------------------------------------------

namespace Memory.World

/-
  Whether each call is answered by what the backend and the
  directory hold: nothing fails, nothing changes by itself.
-/
structure Steady
    (world : World) : Prop where
  undisturbed : world.backend.Undisturbed
  settled : Scripts.Spent world.backend.sights
  reachable : Scripts.Spent world.directory.failures
  ordered : world.backend.Ordered

/- Whether a world holds the same volumes and nodes as before. -/
structure Kept
    (world after : World) : Prop where
  backend : after.backend = world.backend
  directory : after.directory = world.directory

variable {world between after : World}

theorem Kept.refl
    (world : World) :
    Kept world world :=
  ⟨rfl, rfl⟩

theorem Kept.trans
    (h : Kept world between)
    (h' : Kept between after) :
    Kept world after :=
  ⟨h'.backend.trans h.backend, h'.directory.trans h.directory⟩

theorem Steady.of_kept
    (h : Steady world)
    (hKept : Kept world after) :
    Steady after := by
  rcases h with ⟨hUndisturbed, hSettled, hReachable, hOrdered⟩
  rw [← hKept.backend] at hUndisturbed hSettled hOrdered
  rw [← hKept.directory] at hReachable
  exact ⟨hUndisturbed, hSettled, hReachable, hOrdered⟩

/- A volume is shown as it is, and nothing changes. -/
theorem Steady.answer_get
    (h : Steady world)
    {disk : Disk}
    (hDisk : disk ∈ world.backend.disks) :
    world.backend.answer (.get disk.id) =
      (.ok disk, world.backend) := by
  rw [Backend.answer_eq_perform h.undisturbed]
  change world.backend.get disk.id = _
  unfold Backend.get
  rw [Scripts.take_of_spent h.settled]
  change world.backend.lookUp disk.id = _
  unfold Backend.lookUp
  rw [h.ordered.disk?_of_mem hDisk]

theorem Steady.answer_directory
    (h : Steady world)
    (call : Cluster.Call) :
    world.directory.answer call = world.directory.perform call := by
  have hTake :
      Failures.take call.name world.directory.failures =
        (none, world.directory.failures) := by
    rw [Failures.take, Scripts.take_of_spent h.reachable]
    rfl
  rw [Directory.answer, hTake]

end Memory.World

namespace Service

namespace Reporting

open Csi (Condition VolumeState)
open Csi.Controller (ListedVolume)
open Memory (Directory World)
open Memory.World (Kept Steady)

variable {world later : World}
variable {disk : Disk}

------------------------------------------------------------
-- The Nodes of a Volume
------------------------------------------------------------

/-
  Whether no node of the directory, whatever its role, runs an
  instance, or the node that is found for it is not ready.
-/
inductive Unready
    (directory : Directory)
    (instanceId : String) : Prop where
  | missing
      (hMissing :
        ∀ node ∈ directory.nodes,
          node.instanceId ≠ some instanceId)
  | notReady
      {before after : List Cluster.Node}
      {node : Cluster.Node}
      (hNodes : directory.nodes = before ++ node :: after)
      (hFirst :
        ∀ other ∈ before, other.instanceId ≠ some instanceId)
      (hRuns : node.instanceId = some instanceId)
      (hNotReady : node.ready = false)

/- The node of an instance is the first one that runs it. -/
theorem unready_iff
    {directory : Directory}
    {instanceId : String} :
    Unready directory instanceId ↔
      ∀ node,
        (directory.nodes.find? fun node =>
          node.instanceId == some instanceId) = some node →
          node.ready = false := by
  constructor
  · intro h node hFind
    have hRuns := List.find?_some hFind
    cases h with
    | missing hMissing =>
        have hMem := List.mem_of_find?_eq_some hFind
        exact absurd (by simpa using hRuns) (hMissing node hMem)
    | @notReady before after first hNodes hFirst hFound hNotReady =>
        have hSame :
            (directory.nodes.find? fun node =>
              node.instanceId == some instanceId) =
              some first := by
          rw [List.find?_eq_some_iff_append]
          refine ⟨by simpa using hFound, before, after, hNodes, ?_⟩
          intro other hOther
          simpa using hFirst other hOther
        rw [hSame] at hFind
        cases hFind
        exact hNotReady
  · intro h
    cases hFind :
        directory.nodes.find? fun node =>
          node.instanceId == some instanceId with
    | none =>
        apply Unready.missing
        intro node hNode
        simpa using List.find?_eq_none.mp hFind node hNode
    | some node =>
        rcases List.find?_eq_some_iff_append.mp hFind with
          ⟨hRuns, before, after, hNodes, hFirst⟩
        apply Unready.notReady hNodes
        · intro other hOther
          simpa using hFirst other hOther
        · simpa using hRuns
        · exact h node hFind

/-
  The condition of a volume is abnormal exactly if one of its
  instances has no node that is ready.
-/
theorem run_nodeCondition
    (hSteady : Steady world)
    (instances : List String) :
    ∃ condition after,
      World.run (nodeCondition instances) world =
          (.ok condition, after) ∧
        Kept world after ∧
        (condition.abnormal = true ↔
          ∃ instanceId ∈ instances,
            Unready world.directory instanceId) := by
  induction instances generalizing world with
  | nil =>
      refine ⟨_, world, rfl, Kept.refl world, ?_⟩
      simp [Condition.normal]
  | cons instanceId instances ih =>
      let found :=
        world.directory.nodes.find? fun node =>
          node.instanceId == some instanceId
      let after := world.afterQuery (.findNode instanceId)
      have hAnswer :
          world.directory.answer (.findNode instanceId) =
            (.ok found, world.directory) :=
        hSteady.answer_directory _
      have hKept : Kept world after := by
        refine ⟨rfl, ?_⟩
        change (world.directory.answer _).2 = _
        rw [hAnswer]
      have hAsked :
          World.run
              (during .cluster "find node running instance"
                instanceId (Host.cluster (.findNode instanceId)))
              world =
            (.ok found, after) := by
        rw [World.run_during, World.run_cluster, hAnswer]
        rfl
      unfold nodeCondition
      rw [Program.bind_eq, World.run_bind_of_ok hAsked]
      rw [List.exists_mem_cons_iff]
      have hFirst :
          Unready world.directory instanceId ↔
            ∀ node, found = some node → node.ready = false :=
        unready_iff
      cases hFound : found with
      | none =>
          refine ⟨_, after, rfl, hKept, iff_of_true rfl (.inl ?_)⟩
          rw [hFirst, hFound]
          exact nofun
      | some node =>
          rw [hFound] at hFirst
          dsimp only
          split
          · next hReady =>
              have hNot : ¬ Unready world.directory instanceId := by
                intro hUnready
                have hNotReady := hFirst.mp hUnready node rfl
                rw [hReady] at hNotReady
                exact nomatch hNotReady
              rcases ih (hSteady.of_kept hKept) with
                ⟨condition, later, hRun, hLater, hAbnormal⟩
              refine ⟨condition, later, hRun, hKept.trans hLater, ?_⟩
              rw [hAbnormal, hKept.directory, or_iff_right hNot]
          · next hNotReady =>
              refine ⟨_, after, rfl, hKept, iff_of_true rfl (.inl ?_)⟩
              rw [hFirst]
              rintro _ ⟨⟩
              simpa using hNotReady

------------------------------------------------------------
-- Single Volumes
------------------------------------------------------------

/-
  Whether a report on a volume confirms what the list says of
  it, and says of a volume in use whether its nodes are ready.
-/
structure Confirms
    (directory : Directory)
    (disk : Disk)
    (listed state : VolumeState) : Prop where
  nodes : state.nodes = listed.nodes
  broken : listed.abnormal = true → state.abnormal = true
  inUse :
    disk.status = .inUse →
      (state.abnormal = true ↔
        ∃ instanceId ∈ disk.attachedTo,
          Unready directory instanceId)

/- One case for each status that is worded in a way of its own. -/
theorem confirms_of_stateOf
    (hSteady : Steady world)
    (disk : Disk) :
    ∃ state after,
      World.run (stateOf disk.id disk) world = (.ok state, after) ∧
        Kept world after ∧
        Confirms world.directory disk (listedState disk) state := by
  unfold stateOf listedState
  cases hStatus : disk.status with
  | error =>
      refine ⟨_, world, rfl, Kept.refl world, rfl, fun _ => rfl, ?_⟩
      rw [hStatus]
      exact nofun
  | inUse =>
      rcases run_nodeCondition hSteady disk.attachedTo with
        ⟨condition, after, hRun, hKept, hAbnormal⟩
      let state : VolumeState :=
        { nodes := disk.attachedTo, condition := some condition }
      refine ⟨state, after, ?_, hKept, rfl, nofun, ?_⟩
      · exact World.run_bind_of_ok hRun _
      · exact fun _ => hAbnormal
  | _ =>
      refine ⟨_, world, rfl, Kept.refl world, rfl, nofun, ?_⟩
      rw [hStatus]
      exact nofun

/-
  Whether the entry of a volume in the list is that volume, and
  whoever asks for it by its identifier gets the same volume,
  in a state that confirms the entry.
-/
structure Agrees
    (settings : Settings)
    (world : World)
    (disk : Disk)
    (entry : ListedVolume) : Prop where
  volume : entry.volume = (describeDisk settings disk).toMessage
  got :
    disk.id ≠ "" →
      ∃ listed state after,
        entry.state = some listed ∧
          World.run ((provisioner settings).serve (.get ⟨disk.id⟩))
              world =
            (.ok (.got entry.volume state), after) ∧
          Kept world after ∧
          Confirms world.directory disk listed state

theorem agrees_listEntry
    (settings : Settings)
    (hSteady : Steady world)
    (hDisk : disk ∈ world.backend.disks) :
    Agrees settings world disk
      (Csi.Controller.writeEntry (listEntry settings disk)) := by
  refine ⟨rfl, fun hNamed => ?_⟩
  let shown := world.afterCall (.get disk.id)
  have hAnswer := hSteady.answer_get hDisk
  have hShown : Kept world shown := by
    refine ⟨?_, rfl⟩
    rw [World.afterCall_backend, hAnswer]
  have hVolume :
      World.run
          (Attaching.getVolume Csi.GetVolume.Error.volumeMissing
            disk.id) world =
        (.ok disk, shown) := by
    unfold Attaching.getVolume
    rw [Program.bind_eq, World.run_askBackend_bind, hAnswer]
    rfl
  rcases confirms_of_stateOf (hSteady.of_kept hShown) disk with
    ⟨state, after, hRun, hKept, hConfirms⟩
  rw [hShown.directory] at hConfirms
  refine ⟨_, state, after, rfl, ?_, hShown.trans hKept, hConfirms⟩
  have hCheck :
      Csi.GetVolume.Request.check ⟨disk.id⟩ = .ok ⟨disk.id⟩ := by
    unfold Csi.GetVolume.Request.check Csi.required
    rw [if_neg (by simpa using hNamed)]
    rfl
  refine World.run_procedure_eq_ok.mpr
    ⟨⟨disk.id⟩, (describeDisk settings disk, state), hCheck, ?_, rfl⟩
  unfold get
  rw [Program.bind_eq, World.run_bind_of_ok hVolume]
  have hState :
      World.run
          (within (stateOf disk.id disk) :
            Program Host Csi.GetVolume.Error VolumeState)
          shown =
        (.ok state, after) := by
    rw [World.run_within, hRun]
    rfl
  exact World.run_bind_of_ok hState _

------------------------------------------------------------
-- The List
------------------------------------------------------------

theorem run_serve_list
    {settings : Settings}
    {message : Csi.ListVolumes.Message}
    {request : Csi.ListVolumes.Request}
    {entries : List Csi.ListVolumes.Entry}
    (hRead : Csi.ListVolumes.Request.ofMessage message = .ok request)
    (hRun :
      World.run (list settings request) world =
        (.ok entries, later)) :
    World.run ((provisioner settings).serve (.list message)) world =
      (.ok (.listed (entries.map Csi.Controller.writeEntry)),
        later) :=
  World.run_procedure_eq_ok.mpr ⟨request, entries, hRead, hRun, rfl⟩

/-
  The list has one entry for each volume that is not being
  deleted, in the order of the backend, and all that is said of
  such a volume agrees as long as the same volumes and nodes
  are held.
-/
theorem list_agrees_with_get
    (settings : Settings)
    (hSteady : Steady world) :
    ∃ entries after,
      World.run ((provisioner settings).serve (.list {})) world =
          (.ok (.listed entries), after) ∧
        Kept world after ∧
        ∀ later, Kept world later →
          List.Forall₂ (Agrees settings later)
            (world.backend.disks.filter fun disk =>
              disk.status != .deleting)
            entries := by
  let after := world.afterCall .list
  have hAnswer :
      world.backend.answer .list =
        (.ok world.backend.disks, world.backend) :=
    Memory.Backend.answer_eq_perform hSteady.undisturbed .list
  have hKept : Kept world after := by
    refine ⟨?_, rfl⟩
    rw [World.afterCall_backend, hAnswer]
  let listed :=
    (world.backend.disks.filter fun disk =>
      disk.status != .deleting).map (listEntry settings)
  have hList :
      World.run (list settings ⟨none, none⟩) world =
        (.ok listed, after) := by
    have hAsked :
        World.run
            (within (during .backend "list volumes in region"
              settings.region (Host.backend .list)) :
                Program Host Csi.ListVolumes.Error (List Disk))
            world =
          (.ok world.backend.disks, after) := by
      rw [World.run_within, World.run_during, World.run_backend,
        hAnswer]
      rfl
    exact World.run_bind_of_ok hAsked _
  have hRead :
      Csi.ListVolumes.Request.ofMessage {} = .ok ⟨none, none⟩ := by
    decide
  have hRun :
      World.run ((provisioner settings).serve (.list {})) world =
        (.ok (.listed (listed.map Csi.Controller.writeEntry)),
          after) :=
    run_serve_list hRead hList
  refine ⟨_, after, hRun, hKept, ?_⟩
  intro later hLater
  rw [List.map_map, List.forall₂_map_right_iff, List.forall₂_same]
  intro disk hDisk
  apply agrees_listEntry settings (hSteady.of_kept hLater)
  rw [hLater.backend]
  exact List.mem_of_mem_filter hDisk

/-
  Of two instances one runs on a node that is not ready. The
  instance of another volume has no node at all, and there are
  a broken volume and one that is being deleted.
-/
theorem list_agrees_with_get_lost_nodes :
    let disk (id : String) (status : Disk.Status)
        (instances : List String) : Disk :=
      ⟨id, "pvc-" ++ id, 10, status, "cloud_ssd", "zone-a",
        instances.map fun instanceId => ⟨instanceId, "/dev/vdb"⟩,
        0, []⟩
    let member (name role instanceId : String) (ready : Bool) :
        Memory.Member :=
      ⟨role, ⟨name, some instanceId, [], ready⟩⟩
    let world : World :=
      { backend :=
          { disks :=
              [disk "vol-1" .inUse ["i-1", "i-2"],
                disk "vol-2" .deleting [],
                disk "vol-3" .error [],
                disk "vol-4" .inUse ["i-3"],
                disk "vol-5" .attaching []] }
        directory :=
          { members :=
              [member "node-1" "node" "i-1" true,
                member "node-2" "master" "i-2" false] } }
    Steady world ∧
      ∃ entries after,
        World.run ((provisioner {}).serve (.list {})) world =
            (.ok (.listed entries), after) ∧
          Kept world after ∧
          ∀ later, Kept world later →
            List.Forall₂ (Agrees {} later)
              (world.backend.disks.filter fun disk =>
                disk.status != .deleting)
              entries := by
  intro disk member world
  have hSteady : Steady world :=
    ⟨by decide, by decide, by decide, by decide⟩
  exact ⟨hSteady, list_agrees_with_get {} hSteady⟩

/-
  A volume without an identifier is listed as any other. The
  request for it is refused, for it has to name a volume.
-/
theorem unnamed_listed_but_not_got :
    let disk : Disk :=
      ⟨"", "pvc-1", 10, .available, "cloud_ssd", "zone-a", [], 0,
        []⟩
    let world : World := { backend := { disks := [disk] } }
    let entry : ListedVolume :=
      ⟨(describeDisk {} disk).toMessage,
        some { condition := some (.normal "available") }⟩
    Steady world ∧
      (World.run ((provisioner {}).serve (.list {})) world).1 =
        .ok (.listed [entry]) ∧
      World.run ((provisioner {}).serve (.get ⟨entry.volume.id⟩))
          world =
        (.error ⟨.invalidArgument,
          "ControllerGetVolumeRequest.volume_id is empty"⟩,
          world) := by
  intro disk world entry
  exact ⟨⟨by decide, by decide, by decide, by decide⟩, by decide,
    rfl⟩

end Reporting

end Service

end BlockVolumes
