import BlockVolumes.Proofs.Memory.Backend
import BlockVolumes.Proofs.Memory.World
import BlockVolumes.Service.Duplicates
import Mathlib.Data.List.Perm.Basic

/-
  What is planned for several volumes of one name, and what
  the backend in memory holds once the plan is carried out.

  Key theorems include:
    * `Service.Duplicates.listed_of_byAge`
    * `Service.Duplicates.perm_of_plan`
    * `Service.Duplicates.permits_of_plan`
    * `Service.Duplicates.plan_of_removable`
    * `Service.Duplicates.run_removeAll`
    * `Service.Duplicates.run_resolve`
-/

namespace BlockVolumes

namespace Service

namespace Duplicates

------------------------------------------------------------
-- Plans
------------------------------------------------------------

theorem perm_byAge
    (disks : List Disk) :
    (byAge disks).Perm disks :=
  List.mergeSort_perm _ _

theorem notYounger_trans
    (a b c : Disk)
    (hab : decide (a.createdAt ≤ b.createdAt) = true)
    (hbc : decide (b.createdAt ≤ c.createdAt) = true) :
    decide (a.createdAt ≤ c.createdAt) = true := by
  simp only [decide_eq_true_eq] at *
  exact Int.le_trans hab hbc

theorem notYounger_total
    (a b : Disk) :
    (decide (a.createdAt ≤ b.createdAt) ||
      decide (b.createdAt ≤ a.createdAt)) = true := by
  simpa using Int.le_total a.createdAt b.createdAt

/- The volumes are put from the oldest to the youngest. -/
theorem pairwise_byAge
    (disks : List Disk) :
    (byAge disks).Pairwise fun a b => a.createdAt ≤ b.createdAt := by
  unfold byAge
  simpa using
    List.pairwise_mergeSort notYounger_trans notYounger_total disks

/-
  A volume that is listed before others comes after those of
  them that are older, and before those that are not.
-/
theorem byAge_cons
    (disk : Disk)
    (disks : List Disk) :
    ∃ older others,
      byAge (disk :: disks) = older ++ disk :: others ∧
        byAge disks = older ++ others ∧
        ∀ other ∈ older, other.createdAt < disk.createdAt := by
  rcases List.mergeSort_cons notYounger_trans notYounger_total
      disk disks with
    ⟨older, others, hCons, hRest, hOlder⟩
  refine ⟨older, others, hCons, hRest, ?_⟩
  intro other hOther
  simpa using hOlder other hOther

/-
  The first volume by age is the first one listed of those that
  are equally old.
-/
theorem listed_of_byAge
    {disks others : List Disk}
    {oldest : Disk}
    (h : byAge disks = oldest :: others) :
    ∃ before after,
      disks = before ++ oldest :: after ∧
        (∀ disk ∈ before, oldest.createdAt < disk.createdAt) ∧
        ∀ disk ∈ after, oldest.createdAt ≤ disk.createdAt := by
  induction disks generalizing others with
  | nil => simp [byAge] at h
  | cons disk disks ih =>
      rcases byAge_cons disk disks with
        ⟨older, rest, hCons, hRest, hOlder⟩
      have hSorted := pairwise_byAge (disk :: disks)
      rw [h] at hCons hSorted
      cases older with
      | nil =>
          rcases hCons with ⟨⟩
          refine ⟨[], disks, rfl, by simp, ?_⟩
          intro other hOther
          have hMem : other ∈ others := by
            rw [← List.nil_append others, ← hRest]
            exact (perm_byAge disks).mem_iff.mpr hOther
          exact (List.pairwise_cons.mp hSorted).1 other hMem
      | cons first older =>
          rcases hCons with ⟨⟩
          rcases ih hRest with
            ⟨before, after, rfl, hBefore, hAfter⟩
          refine ⟨disk :: before, after, rfl, ?_, hAfter⟩
          intro other hOther
          rcases List.mem_cons.mp hOther with rfl | hMem
          · exact hOlder oldest (by simp)
          · exact hBefore other hMem

/- The volume that stays and the others are all volumes. -/
theorem perm_of_survivor?
    {mayRemove : Disk → Bool}
    {disks : List Disk}
    {plan : Plan}
    (h : survivor? mayRemove disks = some plan) :
    (plan.keep :: plan.remove).Perm disks := by
  have hParts :
      (disks.filter (! mayRemove ·) ++
        disks.filter mayRemove).Perm disks :=
    List.perm_append_comm.trans
      (List.filter_append_perm mayRemove disks)
  unfold survivor? at h
  split at h
  · simp at h
  · next oldest others hKept hYoung =>
      simp only [Option.some.injEq] at h
      subst h
      rw [hKept, hYoung] at hParts
      exact hParts
  · next keep hKept =>
      simp only [Option.some.injEq] at h
      subst h
      rw [hKept] at hParts
      exact hParts
  · simp at h

/- Where every volume may be removed, the first one stays. -/
theorem survivor?_of_all
    {mayRemove : Disk → Bool}
    {oldest : Disk}
    {others : List Disk}
    (h : ∀ disk ∈ oldest :: others, mayRemove disk = true) :
    survivor? mayRemove (oldest :: others) =
      some ⟨oldest, others⟩ := by
  have hKept : (oldest :: others).filter (! mayRemove ·) = [] := by
    rw [List.filter_eq_nil_iff]
    intro disk hDisk
    simp [h disk hDisk]
  have hYoung :
      (oldest :: others).filter mayRemove = oldest :: others :=
    List.filter_eq_self.mpr h
  unfold survivor?
  rw [hKept, hYoung]

variable {settings : Settings}
variable {name : String}
variable {size : Nat}
variable {now : Int}
variable {disks : List Disk}
variable {result : Plan}

/- What a plan says about the volumes that it is made for. -/
theorem perm_of_plan
    (h : plan settings name size now disks = .ok result) :
    (result.keep :: result.remove).Perm disks := by
  unfold plan at h
  dsimp only at h
  split at h
  · simp at h
  · next found hFound =>
      have hPerm := (perm_of_survivor? hFound).trans (perm_byAge disks)
      split at h
      · simp at h
      · split at h
        · simp at h
        · simp only [Except.ok.injEq] at h
          subst h
          exact hPerm

/- No volume is removed whose status forbids it. -/
theorem permits_of_plan
    (h : plan settings name size now disks = .ok result)
    {disk : Disk}
    (hDisk : disk ∈ result.remove) :
    disk.status.permits .delete = true := by
  unfold plan at h
  dsimp only at h
  split at h
  · simp at h
  · split at h
    · simp at h
    · split at h
      · simp at h
      · next hNone =>
          simp only [Except.ok.injEq] at h
          subst h
          have hDeletable := List.find?_eq_none.mp hNone disk hDisk
          simpa using hDeletable

/-
  Where every volume is young, a copy of the wanted one and
  available, the oldest one stays.
-/
theorem plan_of_removable
    {oldest : Disk}
    {others : List Disk}
    (hAge : byAge disks = oldest :: others)
    (hRemovable :
      ∀ disk ∈ disks, Removable settings size now disk)
    (hAvailable :
      ∀ disk ∈ disks, disk.status = .available) :
    plan settings name size now disks =
      .ok ⟨oldest, others⟩ := by
  have hMem : ∀ disk ∈ oldest :: others, disk ∈ disks := by
    intro disk hDisk
    rw [← hAge] at hDisk
    exact (perm_byAge disks).mem_iff.mp hDisk
  have hSurvivor :
      survivor?
          (fun disk => decide (Removable settings size now disk))
          (byAge disks) =
        some ⟨oldest, others⟩ := by
    rw [hAge]
    apply survivor?_of_all
    intro disk hDisk
    exact decide_eq_true (hRemovable disk (hMem disk hDisk))
  have hKeep : oldest.status ≠ .error := by
    rw [hAvailable oldest (hMem oldest (by simp))]
    decide
  have hNoneBusy :
      (others.find? fun disk => !disk.status.permits .delete) =
        none := by
    rw [List.find?_eq_none]
    intro disk hDisk
    rw [hAvailable disk (hMem disk (by simp [hDisk]))]
    decide
  unfold plan
  simp only [hSurvivor, if_neg hKeep, hNoneBusy]

------------------------------------------------------------
-- Carrying Out a Plan
------------------------------------------------------------

open Memory (World)

/- The volumes without those that have one of some names. -/
def without
    (removed : List Disk)
    (disks : List Disk) : List Disk :=
  disks.filter fun disk => removed.all fun r => disk.id != r.id

theorem without_cons
    (disk : Disk)
    (removed disks : List Disk) :
    without (disk :: removed) disks =
      without removed
        (disks.filter fun other => other.id != disk.id) := by
  unfold without
  rw [List.filter_filter]
  congr 1
  funext other
  rw [List.all_cons, Bool.and_comm]

/-
  Deleting a volume leaves all others, whether it was there or
  not.
-/
theorem delete_disks
    (backend : Memory.Backend)
    (id : String) :
    (backend.delete id).2 = backend.removeDisk id := by
  unfold Memory.Backend.delete
  split
  · next hNone =>
      have hOthers :
          (backend.disks.filter fun disk => disk.id != id) =
            backend.disks := by
        rw [List.filter_eq_self]
        intro disk hDisk
        have hOther := List.find?_eq_none.mp hNone disk hDisk
        simpa using hOther
      rw [Memory.Backend.removeDisk, hOthers]
  · rfl

/- A deletion goes well or misses the volume. -/
theorem delete_reply
    (backend : Memory.Backend)
    (id : String) :
    (backend.delete id).1 = .ok () ∨
      (backend.delete id).1 = .error (.notFound id) := by
  unfold Memory.Backend.delete
  split <;> simp

/- All volumes to be removed are gone, and no others. -/
theorem run_removeAll
    (removed : List Disk)
    {world : World}
    (hUndisturbed : world.backend.Undisturbed) :
    ∃ after,
      World.run (removeAll removed) world = (.ok (), after) ∧
        after.backend =
          { world.backend with
            disks := without removed world.backend.disks } := by
  induction removed generalizing world with
  | nil => exact ⟨world, rfl, by simp [without]⟩
  | cons disk removed ih =>
      have hAnswer :
          world.backend.answer (.delete disk.id) =
            world.backend.delete disk.id :=
        Memory.Backend.answer_eq_perform hUndisturbed _
      let between := world.afterCall (.delete disk.id)
      have hBetween :
          between.backend = world.backend.removeDisk disk.id := by
        rw [World.afterCall_backend, hAnswer, delete_disks]
      have hStill : between.backend.Undisturbed := by
        rw [hBetween]
        exact hUndisturbed
      rcases ih hStill with ⟨after, hRun, hAfter⟩
      refine ⟨after, ?_, ?_⟩
      · rw [← hRun, removeAll, Program.bind_eq,
          World.run_askBackend_bind, hAnswer]
        rcases delete_reply world.backend disk.id with hOk | hMissing
        · rw [hOk]
        · rw [hMissing]
          rfl
      · rw [hAfter, hBetween, without_cons]
        rfl

/-
  Where duplicates can be resolved, one of them stays and all
  others are gone.
-/
theorem run_resolve
    {world after : World}
    {keep : Disk}
    (hUndisturbed : world.backend.Undisturbed)
    (h :
      World.run (resolve settings name size disks) world =
        (.ok keep, after)) :
    ∃ removed,
      (keep :: removed).Perm disks ∧
        after.backend =
          { world.backend with
            disks := without removed world.backend.disks } := by
  unfold resolve at h
  simp only [Program.bind_eq, Host.wallClock] at h
  change World.run (Program.bind (Program.ofExcept _) _) world = _ at h
  rw [World.run_bind_eq_ok] at h
  rcases h with ⟨plan, between, hPlan, h⟩
  rw [World.run_ofExcept_eq_ok] at hPlan
  rcases hPlan with ⟨hPlan, rfl⟩
  rcases run_removeAll plan.remove hUndisturbed with
    ⟨last, hRemove, hLast⟩
  rw [World.run_bind_of_ok hRemove] at h
  simp only [Program.pure_eq, World.run_done, Prod.mk.injEq,
    Except.ok.injEq] at h
  rcases h with ⟨rfl, rfl⟩
  exact ⟨plan.remove, perm_of_plan hPlan, hLast⟩

/-
  Without the volumes that are removed, only the one that
  stays is left of all volumes with a name.
-/
theorem without_eq_singleton
    {keep : Disk}
    {removed : List Disk}
    (hPerm : (keep :: removed).Perm disks)
    (hNodup : (disks.map (·.id)).Nodup) :
    without removed disks = [keep] := by
  have hIds : ((keep :: removed).map (·.id)).Nodup :=
    (hPerm.map _).nodup_iff.mpr hNodup
  simp only [List.map_cons, List.nodup_cons, List.mem_map,
    not_exists, not_and] at hIds
  have hKeep :
      (removed.all fun r => keep.id != r.id) = true := by
    rw [List.all_eq_true]
    intro r hr
    simpa using Ne.symm (hIds.1 r hr)
  have hRemoved :
      (removed.filter fun disk =>
        removed.all fun r => disk.id != r.id) = [] := by
    rw [List.filter_eq_nil_iff]
    intro disk hDisk hAll
    have hSelf := List.all_eq_true.mp hAll disk hDisk
    simp at hSelf
  have hLeft : (without removed (keep :: removed)).Perm
      (without removed disks) :=
    hPerm.filter _
  unfold without at hLeft ⊢
  rw [List.filter_cons, if_pos hKeep, hRemoved] at hLeft
  exact (List.singleton_perm.mp hLeft).symm

end Duplicates

end Service

end BlockVolumes
