import BlockVolumes.Proofs.Creation.Duplicates
import BlockVolumes.Proofs.Csi.Reading
import BlockVolumes.Service.Provisioner

/-
  Creating a volume a second time. Whatever a creation did, it
  leaves exactly one volume of its name that counts, and the
  same request finds that volume and nothing else to do.

  Key definitions include:
    * `Service.Creation.current`
    * `Service.Creation.Settled`

  Key theorems include:
    * `Service.Creation.readOrder_eq_ok_iff`
    * `Service.Creation.run_create_of_settled`
    * `Service.Creation.settled_of_run_create`
    * `Service.Creation.create_twice`
-/

namespace BlockVolumes

namespace Service

namespace Creation

open Csi.CreateVolume (Request)
open Memory (World)

------------------------------------------------------------
-- The Volume of a Name
------------------------------------------------------------

/- The volumes of a name that are not being deleted. -/
def current
    (name : String)
    (disks : List Disk) : List Disk :=
  (disks.filter fun disk => disk.name == name).filter fun disk =>
    disk.status != .deleting

/-
  A backend in which a name stands for one volume, which is
  what a request for the name and a size would create.
-/
structure Settled
    (backend : Memory.Backend)
    (name : String)
    (size : Nat)
    (disk : Disk) : Prop where
  only : current name backend.disks = [disk]
  unbroken : disk.status ≠ .error
  fits : disk.size = size

theorem current_sublist
    (name : String)
    (disks : List Disk) :
    (current name disks).Sublist disks :=
  List.filter_sublist.trans List.filter_sublist

theorem current_without
    (name : String)
    (removed disks : List Disk) :
    current name (Duplicates.without removed disks) =
      Duplicates.without removed (current name disks) := by
  unfold current Duplicates.without
  simp only [List.filter_filter]
  refine List.filter_congr fun disk _ => ?_
  ac_rfl

/- Only the volume itself is accepted, if it fits. -/
theorem accept_eq_ok
    {name : String}
    {size : Nat}
    {disk accepted : Disk} :
    accept name size disk = .ok accepted ↔
      disk = accepted ∧ disk.status ≠ .error ∧
        disk.size = size := by
  unfold accept
  split
  · next hError => simp [hError]
  · next hSound =>
      split
      · next hSize => simp [hSize]
      · next hSize => simp [hSound, not_not.mp hSize]

variable {settings : Settings}
variable {name : String}
variable {size : Nat}
variable {world after : World}
variable {disk : Disk}

/-
  An order is read of a supported request that gives a range
  and no source, by allocating the one and parsing the other.
-/
theorem readOrder_eq_ok_iff
    {request : Request}
    {order : Order} :
    readOrder settings request = .ok order ↔
      checkAll request.capabilities = .ok () ∧
        request.source = none ∧
        ∃ range,
          request.range = some range ∧
            Capacity.allocate settings.capacity (some range) =
              .ok order.size ∧
            Parameters.parse settings.diskType request.parameters =
              .ok order.parameters := by
  unfold readOrder
  cases request.source with
  | some source => simp [Csi.bind_eq_ok]
  | none =>
      cases request.range with
      | none => simp [Csi.bind_eq_ok]
      | some range =>
          simp only [Csi.bind_eq_ok, Csi.mapError_eq_ok, pure,
            Except.pure, Except.ok.injEq, true_and]
          constructor
          · rintro ⟨_, hChecks, size, hSize, parameters, hParse, rfl⟩
            exact ⟨hChecks, range, rfl, hSize, hParse⟩
          · rintro ⟨hChecks, _, ⟨⟩, hSize, hParse⟩
            exact ⟨_, hChecks, _, hSize, _, hParse, rfl⟩

/- Looking for volumes leaves a mark and nothing else. -/
theorem afterCall_find
    (hUndisturbed : world.backend.Undisturbed)
    (name : String) :
    world.afterCall (.find name) =
      world.record (.backend (.find name)) := by
  unfold World.afterCall
  rw [Memory.Backend.answer_eq_perform hUndisturbed]
  rfl

theorem run_find
    (hUndisturbed : world.backend.Undisturbed) :
    World.run
        (within (during .backend "find volumes named" name
          (Host.backend (.find name))) :
          Program Host Csi.CreateVolume.Error (List Disk)) world =
      (.ok (world.backend.disks.filter fun disk =>
          disk.name == name),
        world.record (.backend (.find name))) := by
  rw [World.run_within, World.run_during, World.run_backend,
    Memory.Backend.answer_eq_perform hUndisturbed,
    afterCall_find hUndisturbed]
  rfl

------------------------------------------------------------
-- Looking for an Earlier Volume
------------------------------------------------------------

theorem run_findExisting_of_settled
    (hUndisturbed : world.backend.Undisturbed)
    (hSettled : Settled world.backend name size disk) :
    World.run (findExisting settings name size) world =
      (.ok (some disk), world.record (.backend (.find name))) := by
  have hAccept : accept name size disk = .ok disk :=
    accept_eq_ok.mpr ⟨rfl, hSettled.unbroken, hSettled.fits⟩
  have hOnly := hSettled.only
  unfold current at hOnly
  unfold findExisting
  rw [Program.bind_eq, World.run_bind_of_ok (run_find hUndisturbed)]
  simp only [hOnly, hAccept, Program.ofExcept_ok, Program.map_eq,
    Program.done_bind, World.run_done]

/- Nothing is found only where there is nothing. -/
theorem run_findExisting_none
    (hUndisturbed : world.backend.Undisturbed)
    (h :
      World.run (findExisting settings name size) world =
        (.ok none, after)) :
    current name world.backend.disks = [] ∧
      after.backend = world.backend := by
  unfold findExisting at h
  rw [Program.bind_eq,
    World.run_bind_of_ok (run_find hUndisturbed)] at h
  split at h
  · next hNone =>
      simp only [Program.pure_eq, World.run_done, Prod.mk.injEq,
        true_and] at h
      exact ⟨hNone, by rw [← h]; rfl⟩
  · simp only [Program.map_eq, World.run_bind_eq_ok,
      World.run_done, Prod.mk.injEq, Except.ok.injEq,
      reduceCtorEq, false_and, and_false, exists_false] at h
  · simp only [Program.map_eq, Program.bind_eq,
      World.run_bind_eq_ok, World.run_done, Prod.mk.injEq,
      Except.ok.injEq, reduceCtorEq, false_and, and_false,
      exists_false] at h

/-
  The volume that is found is the only one afterwards, also
  where others had to be removed.
-/
theorem settled_of_findExisting
    (hUndisturbed : world.backend.Undisturbed)
    (hOrdered : world.backend.Ordered)
    (h :
      World.run (findExisting settings name size) world =
        (.ok (some disk), after)) :
    Settled after.backend name size disk ∧
      after.backend.Undisturbed := by
  unfold findExisting at h
  rw [Program.bind_eq,
    World.run_bind_of_ok (run_find hUndisturbed)] at h
  split at h
  · simp at h
  · next found hFound =>
      simp only [Program.map_eq, World.run_bind_eq_ok,
        World.run_ofExcept_eq_ok, World.run_done, Prod.mk.injEq,
        Except.ok.injEq, Option.some.injEq] at h
      rcases h with ⟨accepted, _, ⟨hAccept, rfl⟩, rfl, rfl⟩
      rcases accept_eq_ok.mp hAccept with ⟨rfl, hSound, hSize⟩
      exact ⟨⟨hFound, hSound, hSize⟩, hUndisturbed⟩
  · simp only [Program.map_eq, Program.bind_eq,
      World.run_bind_eq_ok, World.run_ofExcept_eq_ok,
      World.run_done, Prod.mk.injEq, Except.ok.injEq,
      Option.some.injEq] at h
    rcases h with
      ⟨keep, between, hResolve, accepted, _, ⟨hAccept, rfl⟩, rfl,
        rfl⟩
    rcases accept_eq_ok.mp hAccept with ⟨rfl, hSound, hSize⟩
    rw [within, World.run_mapError_eq_ok] at hResolve
    have hQuiet :
        (world.record
          (.backend (.find name))).backend.Undisturbed :=
      hUndisturbed
    rcases Duplicates.run_resolve hQuiet hResolve with
      ⟨removed, hPerm, hAfter⟩
    have hNodup :
        ((current name world.backend.disks).map (·.id)).Nodup :=
      List.Nodup.sublist ((current_sublist _ _).map _)
        hOrdered.nodup
    refine ⟨⟨?_, hSound, hSize⟩, ?_⟩
    · rw [hAfter]
      exact (current_without _ _ _).trans
        (Duplicates.without_eq_singleton hPerm hNodup)
    · rw [hAfter]
      exact hUndisturbed

------------------------------------------------------------
-- Making a New Volume
------------------------------------------------------------

/- Choosing a zone does not concern the backend. -/
theorem run_choose_backend
    (role : String)
    (parameters : Parameters)
    (requirement : Option Csi.TopologyRequirement)
    (world : World) :
    (World.run (Zones.choose role parameters requirement)
      world).2.backend = world.backend := by
  unfold Zones.choose
  split
  · rfl
  · rfl
  · rw [World.run, Zones.run_next]
    dsimp only
    split
    · rfl
    · split <;> rfl

/-
  A volume that is created stands in the backend as it was
  ordered, in one of the types that were tried.
-/
theorem run_tryTypes
    {specOf : String → Backend.CreateSpec}
    {last : Backend.Error}
    {types : List String}
    {id diskType : String}
    (hUndisturbed : world.backend.Undisturbed)
    (h :
      World.run (tryTypes specOf last types) world =
        (.ok (id, diskType), after)) :
    after.backend.disks =
        Memory.Backend.insertDisk
          (world.backend.newDisk id (specOf diskType))
          world.backend.disks ∧
      after.backend.Undisturbed := by
  induction types generalizing world last with
  | nil => simp [tryTypes] at h
  | cons first types ih =>
      rw [tryTypes, Program.bind_eq, World.run_askBackend_bind]
        at h
      have hAnswer :=
        Memory.Backend.answer_eq_perform hUndisturbed
          (.create (specOf first))
      have hLater := World.afterCall_backend world
        (.create (specOf first))
      rw [hAnswer] at h hLater
      simp only [Memory.Backend.perform, Memory.Backend.create]
        at h hLater
      by_cases hSold : (specOf first).diskType ∈ world.backend.soldOut
      · rw [if_pos hSold] at h hLater
        have hStill :
            (world.afterCall
              (.create (specOf first))).backend.Undisturbed := by
          rw [hLater]
          exact hUndisturbed
        have hRest := ih hStill h
        rw [hLater] at hRest
        exact hRest
      · rw [if_neg hSold] at h hLater
        simp only [Program.pure_eq, World.run_done, Prod.mk.injEq,
          Except.ok.injEq] at h
        rcases h with ⟨⟨rfl, rfl⟩, rfl⟩
        rw [hLater]
        exact ⟨rfl, hUndisturbed⟩

/- A volume put among volumes of other names is the only one. -/
theorem current_insertDisk
    {disks : List Disk}
    (hNone : current name disks = [])
    (hName : disk.name = name)
    (hStatus : disk.status ≠ .deleting) :
    current name (Memory.Backend.insertDisk disk disks) =
      [disk] := by
  have hDisk : current name [disk] = [disk] := by
    simp [current, hName, hStatus]
  have hCons :
      ∀ other disks,
        current name (other :: disks) =
          current name [other] ++ current name disks := by
    intro other disks
    simp only [current, ← List.filter_append,
      List.singleton_append]
  induction disks with
  | nil => exact hDisk
  | cons other disks ih =>
      rw [hCons, List.append_eq_nil_iff] at hNone
      rcases hNone with ⟨hOther, hDisks⟩
      unfold Memory.Backend.insertDisk
      split
      · rw [hCons, hCons other, hDisk, hOther, hDisks]
        rfl
      · split
        · rw [hCons, hDisk, hDisks]
          rfl
        · rw [hCons, hOther, ih hDisks]
          rfl

------------------------------------------------------------
-- Whole Requests
------------------------------------------------------------

variable {request : Request}
variable {order : Order}
variable {volume : Csi.Volume}

/- A request for a volume that is there finds it. -/
theorem run_create_of_settled
    (hUndisturbed : world.backend.Undisturbed)
    (hOrder : readOrder settings request = .ok order)
    (hSettled :
      Settled world.backend request.name order.size disk) :
    World.run (create settings request) world =
      (.ok (describeDisk settings disk),
        world.record (.backend (.find request.name))) := by
  unfold create
  simp only [Program.bind_eq, hOrder, checked, Program.done_bind]
  rw [World.run_bind_of_ok
    (run_findExisting_of_settled hUndisturbed hSettled)]
  rfl

/-
  A request that goes well leaves one volume of its name, which
  is the one in the answer.
-/
theorem settled_of_run_create
    (hUndisturbed : world.backend.Undisturbed)
    (hOrdered : world.backend.Ordered)
    (hDeleting : world.backend.transitions.create ≠ .deleting)
    (hError : world.backend.transitions.create ≠ .error)
    (h :
      World.run (create settings request) world =
        (.ok volume, after)) :
    ∃ order disk,
      readOrder settings request = .ok order ∧
        Settled after.backend request.name order.size disk ∧
        describeDisk settings disk = volume ∧
        after.backend.Undisturbed := by
  unfold create at h
  simp only [Program.bind_eq, World.run_bind_eq_ok,
    World.run_checked_eq_ok] at h
  rcases h with
    ⟨order, start, ⟨hOrder, hStart⟩, existing, between, hFind, h⟩
  rw [hStart] at hFind
  cases existing with
  | some disk =>
      rcases settled_of_findExisting hUndisturbed hOrdered hFind
        with ⟨hSettled, hQuiet⟩
      simp only [Program.pure_eq, World.run_done, Prod.mk.injEq,
        Except.ok.injEq] at h
      rcases h with ⟨rfl, rfl⟩
      exact ⟨order, disk, hOrder, hSettled, rfl, hQuiet⟩
  | none =>
      rcases run_findExisting_none hUndisturbed hFind with
        ⟨hNone, hBackend⟩
      simp only [within, World.run_bind_eq_ok,
        World.run_mapError_eq_ok] at h
      rcases h with
        ⟨zone, there, hZone, ⟨id, diskType⟩, last, hCreate, h⟩
      have hThere : there.backend = world.backend := by
        have hChoose :=
          run_choose_backend settings.nodeRole order.parameters
            request.requirement between
        rw [hZone] at hChoose
        exact hChoose.trans hBackend
      simp only [Program.pure_eq, World.run_done, Prod.mk.injEq,
        Except.ok.injEq] at h
      rcases h with ⟨hVolume, rfl⟩
      rw [createDisk, during, World.run_mapError_eq_ok] at hCreate
      rw [← hThere] at hNone hUndisturbed hDeleting hError
      rcases run_tryTypes hUndisturbed hCreate with
        ⟨hDisks, hQuiet⟩
      let created :=
        there.backend.newDisk id
          (specify settings request.name order.size zone
            order.parameters diskType)
      refine ⟨order, created, hOrder, ⟨?_, hError, rfl⟩, hVolume,
        hQuiet⟩
      rw [hDisks]
      exact current_insertDisk hNone rfl hDeleting

/- The same request, made again, has nothing more to do. -/
theorem run_create_again
    (hUndisturbed : world.backend.Undisturbed)
    (hOrdered : world.backend.Ordered)
    (hDeleting : world.backend.transitions.create ≠ .deleting)
    (hError : world.backend.transitions.create ≠ .error)
    (h :
      World.run (create settings request) world =
        (.ok volume, after)) :
    World.run (create settings request) after =
      (.ok volume,
        after.record (.backend (.find request.name))) := by
  rcases settled_of_run_create hUndisturbed hOrdered hDeleting
    hError h with ⟨order, disk, hOrder, hSettled, rfl, hQuiet⟩
  exact run_create_of_settled hQuiet hOrder hSettled

/-
  A creation that was answered well is answered in the same
  way when it is asked for again, and the world is as before
  but for the one call that looks for volumes of the name.
-/
theorem create_twice
    {settings : Settings}
    {message : Csi.CreateVolume.Message}
    {world after : World}
    {answer : Csi.Controller.Answer}
    (hUndisturbed : world.backend.Undisturbed)
    (hOrdered : world.backend.Ordered)
    (hDeleting : world.backend.transitions.create ≠ .deleting)
    (hError : world.backend.transitions.create ≠ .error)
    (h :
      World.run ((provisioner settings).serve (.create message))
        world = (.ok answer, after)) :
    World.run ((provisioner settings).serve (.create message))
        after =
      (.ok answer,
        after.record (.backend (.find message.name))) := by
  rcases World.run_procedure_eq_ok.mp h with
    ⟨request, volume, hRequest, hCreate, hAnswer⟩
  have hAgain :=
    run_create_again hUndisturbed hOrdered hDeleting hError hCreate
  rw [Csi.CreateVolume.Request.name_of_ofMessage hRequest] at hAgain
  exact World.run_procedure_eq_ok.mpr
    ⟨request, volume, hRequest, hAgain, hAnswer⟩

/-
  The first type is sold out, an earlier volume is still being
  deleted, and the zone is the next one of two.
-/
theorem create_twice_second_type :
    let message : Csi.CreateVolume.Message :=
      { name := "pvc-1"
        range := some { required := 10 * Capacity.gib }
        capabilities := [⟨some 1, some (.mount "ext4" [])⟩]
        parameters := [("type", "cloud_ssd, cloud_essd")] }
    let member (name zone : String) : Memory.Member :=
      ⟨"node", ⟨name, none, [(Cluster.zoneKey, zone)], true⟩⟩
    let earlier : Disk :=
      ⟨"vol-1", "pvc-1", 10, .deleting, "cloud_ssd", "zone-a", [],
        0, []⟩
    let world : World :=
      { backend := { disks := [earlier], soldOut := ["cloud_ssd"] }
        directory :=
          { members :=
              [member "node-1" "zone-b",
                member "node-2" "zone-a"] } }
    ∃ answer after,
      World.run ((provisioner {}).serve (.create message)) world =
          (.ok answer, after) ∧
        World.run ((provisioner {}).serve (.create message)) after =
          (.ok answer, after.record (.backend (.find "pvc-1"))) := by
  intro message member earlier world
  have hOk :
      (World.run ((provisioner {}).serve (.create message))
        world).1.isOk = true := by
    decide
  rcases hRun :
      World.run ((provisioner {}).serve (.create message)) world
    with ⟨e | answer, after⟩
  · rw [hRun] at hOk
    exact absurd hOk Bool.false_ne_true
  · exact ⟨answer, after, rfl,
      create_twice (by decide) (by decide) (by decide) (by decide)
        hRun⟩

end Creation

end Service

end BlockVolumes
