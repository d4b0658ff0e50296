import BlockVolumes.Proofs.Creation.Duplicates
import BlockVolumes.Proofs.Csi.Reading
import BlockVolumes.Proofs.Racing.Stock
import BlockVolumes.Service.Provisioner

/-
  Calls that create the same volume side by side. Each of them
  acts on what it has found some time ago, but it never deletes
  the oldest copy.

  Key definitions include:
    * `Racing.Plays`
    * `Racing.IsSpare`
    * `Racing.Orders`

  Key theorems include:
    * `Racing.plan_of_copies`
    * `Racing.plays_removeAll`
    * `Racing.plays_serve`
-/

namespace BlockVolumes

namespace Racing

open Service (Duplicates.Young)

variable {settings : Settings}
variable {name : String}
variable {size : Nat}
variable {stock : Stock}

------------------------------------------------------------
-- Which Copies Are Deleted
------------------------------------------------------------

/-
  The plan for copies that are young: the oldest one of them
  stays, and the others are strictly younger.
-/
theorem plan_of_copies
    (hSound : Sound settings name size stock)
    {disks : List Disk}
    (hDisks : ∀ disk ∈ disks, disk ∈ stock.created)
    (hNodup : (disks.map (·.id)).Nodup)
    (hSome : disks ≠ [])
    {clock : Int}
    (hClock :
      ∀ disk ∈ stock.created,
        Duplicates.Young settings.duplicateWindow clock disk) :
    ∃ plan,
      Service.Duplicates.plan settings name size clock disks =
          .ok plan ∧
        ∀ disk ∈ plan.remove,
          plan.keep.createdAt < disk.createdAt := by
  have hPerm := Service.Duplicates.perm_byAge disks
  have hSorted := Service.Duplicates.pairwise_byAge disks
  cases hAge : Service.Duplicates.byAge disks with
  | nil =>
      rw [hAge] at hPerm
      exact absurd hPerm.nil_eq.symm hSome
  | cons oldest others =>
      rw [hAge] at hPerm hSorted
      have hPlan :
          Service.Duplicates.plan settings name size clock disks =
            .ok ⟨oldest, others⟩ := by
        refine Service.Duplicates.plan_of_removable hAge ?_ ?_
        · intro disk hDisk
          have hCopy := hSound.copies disk (hDisks disk hDisk)
          exact ⟨hCopy.tagged, hCopy.sized,
            hClock disk (hDisks disk hDisk)⟩
        · intro disk hDisk
          exact (hSound.copies disk (hDisks disk hDisk)).available
      refine ⟨⟨oldest, others⟩, hPlan, fun disk hDisk => ?_⟩
      have hOldest : oldest ∈ disks :=
        hPerm.mem_iff.mp (List.mem_cons_self ..)
      have hMem : disk ∈ disks :=
        hPerm.mem_iff.mp (List.mem_cons_of_mem _ hDisk)
      have hNotLater : oldest.createdAt ≤ disk.createdAt :=
        (List.pairwise_cons.mp hSorted).1 disk hDisk
      have hOther : oldest.createdAt ≠ disk.createdAt := by
        intro hSame
        have hEq : oldest = disk :=
          hSound.times _ (hDisks _ hOldest) _ (hDisks _ hMem) hSame
        have hIds : ((oldest :: others).map (·.id)).Nodup :=
          (hPerm.map _).nodup_iff.mpr hNodup
        rw [List.map_cons, List.nodup_cons] at hIds
        apply hIds.1
        rw [hEq]
        exact List.mem_map_of_mem hDisk
      dsimp only
      omega

------------------------------------------------------------
-- One of Several Calls
------------------------------------------------------------

variable {ε ε' α β : Type}

/- Whether a program keeps a sound stock sound. -/
def Plays
    (settings : Settings)
    (name : String)
    (size : Nat)
    (program : Program Host ε α)
    (stock : Stock) : Prop :=
  Sound settings name size stock →
    program.Keeps (around settings name size)
      (Allowed settings name size) (fun _ _ => True) stock

namespace Plays

variable {program : Program Host ε α}

theorem done
    {a : α} :
    Plays settings name size (.done a : Program Host ε α) stock :=
  fun _ _ _ => trivial

theorem failed
    {e : ε} :
    Plays settings name size (.failed e : Program Host ε α)
      stock :=
  fun _ _ _ => trivial

theorem ask
    {request : Host.Request}
    {next : Host.Reply request → Program Host ε α}
    (hAllowed :
      ∀ now,
        (around settings name size).Drifts stock now →
        Sound settings name size now →
          Allowed settings name size request now)
    (hNext :
      ∀ now reply after,
        (around settings name size).Drifts stock now →
        Sound settings name size now →
        Answers settings request now reply after →
          Plays settings name size (next reply) after) :
    Plays settings name size
      (.ask (I := Host) request next) stock := by
  intro hSound now hNow
  have hStill := hNow.1 hSound
  have hMay := hAllowed now hNow hStill
  refine ⟨hMay, fun reply after hAnswer => ?_⟩
  exact hNext now reply after hNow hStill hAnswer
    (hStill.of_answer hMay hAnswer)

theorem bind
    {next : α → Program Host ε β}
    (hFirst : Plays settings name size program stock)
    (hNext :
      ∀ a now, Plays settings name size (next a) now) :
    Plays settings name size (program.bind next) stock := by
  intro hSound
  have hKept :
      program.Keeps (around settings name size)
        (Allowed settings name size)
        (fun _ now => True ∧ Sound settings name size now)
        stock :=
    Program.Keeps.remember
      (fun hDrift hBefore => hDrift.1 hBefore)
      (fun hAllowed hAnswer hBefore =>
        hBefore.of_answer hAllowed hAnswer)
      (hFirst hSound) hSound
  refine Program.Keeps.andThen (Program.Keeps.mono hKept ?_)
    fun a now hNow => hNext a now hNow
  intro result now hResult
  cases result with
  | ok a => exact hResult.2
  | error e => trivial

theorem mapError
    {f : ε → ε'}
    (h : Plays settings name size program stock) :
    Plays settings name size (program.mapError f) stock :=
  fun hSound => Program.Keeps.mapError (h hSound)

theorem ofExcept
    (result : Except ε α) :
    Plays settings name size
      (Program.ofExcept result : Program Host ε α) stock :=
  fun _ => Program.Keeps.ofExcept fun _ _ => trivial

end Plays

/- Whether a volume is a copy, and not the oldest one. -/
def IsSpare
    (stock : Stock)
    (disk : Disk) : Prop :=
  disk ∈ stock.created ∧
    ∃ older ∈ stock.created, older.createdAt < disk.createdAt

/- However the stock has changed, a spare copy stays spare. -/
theorem IsSpare.later
    {disk : Disk}
    {now : Stock}
    (h : IsSpare stock disk)
    (hMore : ∀ other ∈ stock.created, other ∈ now.created) :
    IsSpare now disk := by
  rcases h with ⟨hDisk, older, hOlder, hLess⟩
  exact ⟨hMore disk hDisk, older, hMore older hOlder, hLess⟩

/- Spare copies may be deleted, even after a long time. -/
theorem plays_removeAll
    {removed : List Disk}
    (hSpare : ∀ disk ∈ removed, IsSpare stock disk) :
    Plays settings name size
      (Service.Duplicates.removeAll removed) stock := by
  induction removed generalizing stock with
  | nil => exact Plays.done
  | cons disk removed ih =>
      refine Plays.ask ?_ ?_
      · intro now hNow hSound other hOther hSame
        rcases (hSpare disk (List.mem_cons_self ..)).later hNow.2
          with ⟨hDisk, older, hOlder, hLess⟩
        have hEq : other = disk :=
          hSound.ids other hOther disk hDisk hSame
        rw [hEq]
        exact ⟨older, hOlder, hLess⟩
      · intro now reply after hNow _ hAnswer
        have hRest :
            Plays settings name size
              (Service.Duplicates.removeAll removed) after := by
          refine ih fun other hOther => ?_
          have hBefore :=
            hSpare other (List.mem_cons_of_mem disk hOther)
          exact (hBefore.later hNow.2).later
            fun _ hMem => created_of_answer hAnswer hMem
        cases reply with
        | ok _ => exact hRest
        | error error =>
            dsimp only [Program.done_bind]
            split
            · exact hRest
            · exact Plays.failed

/- Only spare copies of those that were found are deleted. -/
theorem plays_resolve
    {disks : List Disk}
    (hDisks : ∀ disk ∈ disks, disk ∈ stock.created)
    (hNodup : (disks.map (·.id)).Nodup)
    (hSome : disks ≠ []) :
    Plays settings name size
      (Service.Duplicates.resolve settings name size disks)
      stock := by
  refine Plays.ask (fun _ _ _ => trivial) ?_
  intro now clock after hNow hSound hAnswer
  rcases hAnswer with ⟨rfl, hClock⟩
  have hStill : ∀ disk ∈ disks, disk ∈ after.created :=
    fun disk hDisk => hNow.2 disk (hDisks disk hDisk)
  rcases plan_of_copies hSound hStill hNodup hSome hClock with
    ⟨plan, hPlan, hOlder⟩
  have hPerm := Service.Duplicates.perm_of_plan hPlan
  have hRemove :
      Plays settings name size
        (Service.Duplicates.removeAll plan.remove) after := by
    refine plays_removeAll fun disk hDisk => ?_
    have hMem : disk ∈ disks :=
      hPerm.mem_iff.mp (List.mem_cons_of_mem _ hDisk)
    have hKeep : plan.keep ∈ disks :=
      hPerm.mem_iff.mp (List.mem_cons_self ..)
    exact ⟨hStill disk hMem, plan.keep, hStill _ hKeep,
      hOlder disk hDisk⟩
  change Plays settings name size
    (Program.bind (Program.ofExcept
      (Service.Duplicates.plan settings name size clock disks)) _)
    after
  rw [hPlan]
  exact hRemove.bind fun _ _ => Plays.done

/- What is found of a name are copies that are not deleted. -/
theorem found_of_sound
    (hSound : Sound settings name size stock)
    {disks : List Disk}
    (hPerm : disks.Perm (stock.named name)) :
    (∀ disk ∈ disks, disk ∈ stock.created) ∧
      (disks.map (·.id)).Nodup ∧
      (disks.filter fun disk => disk.status != .deleting) =
        disks := by
  have hDisks : ∀ disk ∈ disks, disk ∈ stock.created :=
    fun disk hDisk => hSound.known disk (hPerm.mem_iff.mp hDisk)
  refine ⟨hDisks, ?_, ?_⟩
  · rw [(hPerm.map _).nodup_iff]
    exact hSound.distinct.sublist (List.filter_sublist.map _)
  · rw [List.filter_eq_self]
    intro disk hDisk
    rw [(hSound.copies disk (hDisks disk hDisk)).available]
    rfl

theorem plays_findExisting :
    Plays settings name size
      (Service.Creation.findExisting settings name size)
      stock := by
  refine Plays.ask (fun _ _ _ => trivial) ?_
  intro now reply after hNow hSound hAnswer
  rcases hAnswer with ⟨rfl, hFound⟩
  cases reply with
  | error error => exact Plays.failed
  | ok disks =>
      rcases found_of_sound hSound (hFound disks rfl) with
        ⟨hDisks, hNodup, hAll⟩
      have hAccept :
          ∀ (disk : Disk) (now : Stock),
            Plays settings name size
              (Program.bind
                (Program.ofExcept
                  (Service.Creation.accept name size disk))
                fun disk => .done (some disk))
              now :=
        fun disk now =>
          (Plays.ofExcept _).bind fun _ _ => Plays.done
      dsimp only [Program.ofExcept_ok, Program.mapError_done,
        Program.done_bind]
      rw [hAll]
      split
      · exact Plays.done
      · exact hAccept _ _
      · next hNone _ =>
          have hResolve :
              Plays settings name size
                (Service.Duplicates.resolve settings name size disks)
                after := plays_resolve hDisks hNodup hNone
          exact (Plays.mapError hResolve).bind
            fun disk now => hAccept disk now

theorem plays_next
    (role storageClass : String) :
    Plays settings name size
      (Service.Zones.next role storageClass) stock := by
  refine Plays.ask (fun _ _ _ => trivial) ?_
  intro now reply after _ _ _
  cases reply with
  | error error => exact Plays.failed
  | ok nodes =>
      change Plays settings name size
        (if (Service.Zones.ofNodes nodes).isEmpty then _ else _) _
      split
      · exact Plays.failed
      · refine Plays.ask (fun _ _ _ => trivial) ?_
        intro now turn after _ _ _
        exact Plays.done

theorem plays_choose
    (role : String)
    (parameters : Parameters)
    (requirement : Option Csi.TopologyRequirement) :
    Plays settings name size
      (Service.Zones.choose role parameters requirement) stock := by
  unfold Service.Zones.choose
  split
  · exact Plays.done
  · exact Plays.done
  · exact plays_next role parameters.classKey

/- What is created is a copy. -/
theorem plays_tryTypes
    (zone : String)
    (parameters : Parameters)
    (last : Backend.Error)
    (diskTypes : List String) :
    Plays settings name size
      (Service.Creation.tryTypes
        (Service.Creation.specify settings name size zone parameters)
        last diskTypes)
      stock := by
  cases diskTypes with
  | nil => exact Plays.failed
  | cons diskType diskTypes =>
      refine Plays.ask ?_ ?_
      · intro now _ _
        exact ⟨rfl, rfl, Dictionary.find?_insert_self _ _ _⟩
      · intro now reply after _ _ hAnswer
        rcases hAnswer with ⟨id, createdAt, _, rfl, _⟩
        exact Plays.done

------------------------------------------------------------
-- Messages
------------------------------------------------------------

/-
  Whether a message can be read and orders the volume of the
  name with the size and the parameters.
-/
def Orders
    (settings : Settings)
    (name : String)
    (order : Service.Creation.Order)
    (message : Csi.CreateVolume.Message) : Prop :=
  ∃ request,
    Csi.CreateVolume.Request.ofMessage message = .ok request ∧
      request.name = name ∧
      Service.Creation.readOrder settings request = .ok order

variable {order : Service.Creation.Order}

theorem plays_create
    {request : Csi.CreateVolume.Request}
    (hName : request.name = name)
    (hOrder :
      Service.Creation.readOrder settings request = .ok order) :
    Plays settings name order.size
      (Service.Creation.create settings request) stock := by
  unfold Service.Creation.create
  rw [hOrder, hName]
  dsimp only [Service.checked, Program.bind_eq, Program.done_bind]
  refine Plays.bind plays_findExisting fun found now => ?_
  split
  · exact Plays.done
  · refine (Plays.mapError (plays_choose _ _ _)).bind
      fun zone now => ?_
    refine (Plays.mapError (Plays.mapError
      (plays_tryTypes _ _ _ _))).bind fun _ now => ?_
    exact Plays.done

theorem plays_serve
    {message : Csi.CreateVolume.Message}
    (hMessage : Orders settings name order message) :
    Plays settings name order.size
      ((Service.provisioner settings).serve (.create message))
      stock := by
  rcases hMessage with ⟨request, hRead, hName, hOrder⟩
  rw [Csi.Controller.serve, hRead]
  refine (Plays.mapError (plays_create hName hOrder)).bind
    fun _ now => ?_
  exact Plays.done

end Racing

end BlockVolumes
