import BlockVolumes.Memory.World
import BlockVolumes.Proofs.Creation.Cleanup
import BlockVolumes.Proofs.Transitions.Controller

/-
  Volumes that are deleted by a creation that fails. Copies of
  the wanted volume are deleted before it is known whether the
  one that stays has the wanted size. If it has not, the copies
  are lost, and the creation fails though no call has failed.

  Key definitions include:
    * `Service.Creation.settle`
    * `Service.Creation.Settlement`
    * `Service.Creation.Misfit`
    * `Service.Creation.Loses`

  Key theorems include:
    * `Service.Creation.settlement_of_settle`
    * `Service.Creation.Settlement.loses_iff`
    * `Service.Creation.failed_create_deletes_iff`
-/

namespace BlockVolumes

namespace Service

namespace Creation

open Duplicates (Judged Outcome OwnCopy Stays)
open Host (Exchange Record Replies performed)

------------------------------------------------------------
-- Settling on a Volume
------------------------------------------------------------

/-
  Settles which one of some volumes, if any, is taken for the
  one to be created.
-/
def settle
    (settings : Settings)
    (name : String)
    (size : Nat) :
    List Disk → Program Host Csi.CreateVolume.Error (Option Disk)
  | [] => return none
  | [disk] => some <$> Program.ofExcept (accept name size disk)
  | several => do
      let disk ←
        within (Duplicates.resolve settings name size several)
      some <$> Program.ofExcept (accept name size disk)

variable {settings : Settings}
variable {name : String}
variable {size : Nat}
variable {now : Int}
variable {disks : List Disk}
variable {replies : Replies}
variable {past : Record}

/- The volumes are listed, and those that count are settled. -/
theorem run_findExisting
    (settings : Settings)
    (name : String)
    (size : Nat)
    (replies : Replies)
    (past : Record) :
    replies.run (findExisting settings name size) past =
      let reply := replies (.backend (.find name)) past
      let seen : Record := ⟨.backend (.find name), reply⟩ :: past
      match reply with
      | .error error =>
          (.error (raise (.during "find volumes named" name
            (.backend error))), seen)
      | .ok found =>
          replies.run
            (settle settings name size
              (found.filter fun disk => disk.status != .deleting))
            seen := by
  change replies.run ((within (during .backend _ name
    (Program.ofExcept
      (replies (.backend (.find name)) past)))).bind _)
    (⟨_, replies (.backend (.find name)) past⟩ :: past) = _
  cases replies (.backend (.find name)) past <;> rfl

theorem run_some_accept
    (disk : Disk) :
    replies.run
        (some <$> Program.ofExcept (accept name size disk)) past =
      ((accept name size disk).map some, past) := by
  cases accept name size disk <;> rfl

/- Several volumes are cleaned up before one is accepted. -/
theorem run_settle_several
    {result : Except Error Disk}
    {now : Record}
    (hSeveral : 2 ≤ disks.length)
    (hRun :
      replies.run (Duplicates.resolve settings name size disks)
          past =
        (result, now)) :
    replies.run (settle settings name size disks) past =
      ((result.mapError raise).bind fun keep =>
        (accept name size keep).map some, now) := by
  have hWithin :
      replies.run
          (within (Duplicates.resolve settings name size disks) :
            Program Host Csi.CreateVolume.Error Disk) past =
        (result.mapError raise, now) := by
    rw [within, Replies.run_mapError, hRun]
  match disks, hSeveral with
  | first :: second :: others, _ =>
      cases result with
      | ok keep =>
          exact (Program.run_bind_of_ok hWithin _).trans
            (run_some_accept keep)
      | error error => exact Program.run_bind_of_error hWithin _

/-
  What is exchanged while volumes are settled, and the volume
  that is taken for the one to be created, if any.
-/
inductive Settlement
    (settings : Settings)
    (name : String)
    (size : Nat)
    (now : Int) :
    List Disk → List Exchange →
      Except Csi.CreateVolume.Error (Option Disk) → Prop where
  | empty : Settlement settings name size now [] [] (.ok none)
  | single
      {disk : Disk} :
      Settlement settings name size now [disk] []
        ((accept name size disk).map some)
  | several
      {disks : List Disk}
      {exchanges : List Exchange}
      {result : Except Error Disk}
      (hSeveral : 2 ≤ disks.length)
      (hOutcome :
        Outcome settings name size now disks exchanges result) :
      Settlement settings name size now disks
        (⟨.wallClock, now⟩ :: exchanges)
        ((result.mapError raise).bind fun keep =>
          (accept name size keep).map some)

theorem settlement_of_settle
    (settings : Settings)
    (name : String)
    (size : Nat)
    (disks : List Disk)
    (replies : Replies)
    (past : Record) :
    ∃ exchanges result,
      replies.run (settle settings name size disks) past =
          (result, exchanges.reverse ++ past) ∧
        Settlement settings name size (replies .wallClock past) disks
          exchanges result := by
  match disks with
  | [] => exact ⟨[], _, rfl, .empty⟩
  | [disk] => exact ⟨[], _, run_some_accept disk, .single⟩
  | first :: second :: others =>
      rcases Duplicates.outcome_of_resolve settings name size
          (List.cons_ne_nil first (second :: others)) replies past
        with
        ⟨exchanges, result, hRun, hOutcome⟩
      have hSeveral : 2 ≤ (first :: second :: others).length := by
        simp
      refine ⟨_, _, ?_, .several hSeveral hOutcome⟩
      rw [List.reverse_cons, List.append_assoc]
      exact run_settle_several hSeveral hRun

------------------------------------------------------------
-- Volumes of Another Size
------------------------------------------------------------

variable {before after : List Disk}
variable {keep : Disk}

/- A volume is not taken for the wanted one in two cases. -/
theorem refused_iff :
    (∃ error, (accept name size keep).map some = .error error) ↔
      keep.status = .error ∨ keep.size ≠ size := by
  unfold accept
  split
  · next hBroken => simp [hBroken, Except.map]
  · next hSound =>
      split
      · next hDiffers => simp [hDiffers, Except.map]
      · next hFits => simp [hSound, not_not.mp hFits, Except.map]

/-
  Whether a volume that has not the wanted size is listed among
  others that are all taken for copies of the wanted one and
  can be deleted. None of the volumes is taken for broken.
-/
structure Misfit
    (settings : Settings)
    (size : Nat)
    (now : Int)
    (disks before : List Disk)
    (keep : Disk)
    (after : List Disk) : Prop where
  listed : disks = before ++ keep :: after
  others : before ++ after ≠ []
  copies :
    ∀ other ∈ before ++ after, OwnCopy settings size now other
  idle :
    ∀ other ∈ before ++ after,
      other.status = .available ∨ other.status = .error
  sound : keep.status ≠ .error
  differs : keep.size ≠ size

theorem Misfit.stays
    (h : Misfit settings size now disks before keep after) :
    Stays (OwnCopy settings size now) before keep after :=
  ⟨h.copies, fun hKeep => absurd hKeep.fits h.differs⟩

/- It is decided that the volume of the other size stays. -/
theorem Misfit.judged
    (h : Misfit settings size now disks before keep after)
    {result : Except Error Duplicates.Plan}
    (hJudged :
      Judged (OwnCopy settings size now) name disks result) :
    ∃ queue,
      result = .ok ⟨keep, queue⟩ ∧
        Duplicates.Aged queue (before ++ after) := by
  have hListed := h.listed
  cases hJudged with
  | unclear hSeveral =>
      have hCount := h.stays.countP_le
      rw [← hListed] at hCount
      omega
  | clear hStays hVerdict =>
      rcases hStays.eq_of_eq h.stays hListed with ⟨rfl, rfl, rfl⟩
      cases hVerdict with
      | broken hBroken => exact absurd hBroken h.sound
      | busy _ hOther hBusy =>
          rcases h.idle _ hOther with hAvailable | hError
          · exact absurd hAvailable hBusy.1
          · exact absurd hError hBusy.2
      | idle _ _ hAged => exact ⟨_, rfl, hAged⟩

theorem misfit_of_judged
    {plan : Duplicates.Plan}
    (h :
      Judged (OwnCopy settings size now) name disks (.ok plan))
    (hSeveral : 2 ≤ disks.length)
    (hRefused : plan.keep.status = .error ∨ plan.keep.size ≠ size) :
    ∃ before after,
      Misfit settings size now disks before plan.keep after := by
  generalize hPlan : Except.ok plan = result at h
  cases h with
  | unclear => exact nomatch hPlan
  | @clear before after _ _ hStays hVerdict =>
      cases hVerdict with
      | broken => exact nomatch hPlan
      | busy => exact nomatch hPlan
      | idle hSound hIdle _ =>
          cases hPlan
          refine ⟨before, after, rfl, ?_, hStays.others, hIdle,
            hSound, hRefused.resolve_left hSound⟩
          intro hNone
          rw [List.append_eq_nil_iff] at hNone
          rcases hNone with ⟨rfl, rfl⟩
          simp at hSeveral

/- A misfit is listed among others. -/
theorem no_misfit
    (hFew : disks.length < 2) :
    ¬ ∃ before keep after,
      Misfit settings size now disks before keep after := by
  rintro ⟨before, keep, after, hMisfit⟩
  have hOthers := List.length_pos_of_ne_nil hMisfit.others
  rw [List.length_append] at hOthers
  rw [hMisfit.listed, List.length_append, List.length_cons] at hFew
  omega

------------------------------------------------------------
-- Failing after a Deletion
------------------------------------------------------------

/- Whether a run fails, but has tried to delete a volume. -/
def Loses
    {ε α : Type}
    (run : Except ε α × Record) : Prop :=
  (∃ error, run.1 = .error error) ∧
    ∃ id, (.delete, id) ∈ performed run.2

theorem not_loses_of_quiet
    {ε α : Type}
    {run : Except ε α × Record}
    (h : performed run.2 = []) :
    ¬ Loses run := by
  rintro ⟨_, id, hDelete⟩
  rw [h] at hDelete
  exact nomatch hDelete

/- Where no call fails, volumes are lost to a misfit only. -/
theorem Settlement.loses_iff
    {exchanges : List Exchange}
    {result : Except Csi.CreateVolume.Error (Option Disk)}
    (h : Settlement settings name size now disks exchanges result)
    (hQuiet : performed past = [])
    (hUnfailed :
      ∀ exchange ∈ exchanges.reverse ++ past,
        exchange.failed = false) :
    Loses (result, exchanges.reverse ++ past) ↔
      ∃ before keep after,
        Misfit settings size now disks before keep after := by
  cases h with
  | empty =>
      exact iff_of_false (not_loses_of_quiet hQuiet)
        (no_misfit (by simp))
  | single =>
      exact iff_of_false (not_loses_of_quiet hQuiet)
        (no_misfit (by simp))
  | several hSeveral hOutcome =>
      have hStill :
          performed (⟨.wallClock, now⟩ :: past) = [] :=
        (Host.performed_of_harmless rfl).trans hQuiet
      rw [List.reverse_cons, List.append_assoc] at *
      cases hOutcome with
      | refused hJudged =>
          refine iff_of_false (not_loses_of_quiet hStill) ?_
          rintro ⟨before, keep, after, hMisfit⟩
          rcases hMisfit.judged hJudged with ⟨_, hPlan, _⟩
          exact nomatch hPlan
      | @removed plan exchanges outcome hJudged hDeletions =>
          rcases hDeletions.mem_performed_iff
              (fun exchange hMem =>
                Exchange.failedDeletion_of_failed
                  (hUnfailed exchange hMem))
              hStill with
            ⟨rfl, hDeleted⟩
          constructor
          · rintro ⟨hError, _⟩
            rcases misfit_of_judged hJudged hSeveral
                (refused_iff.mp hError) with
              ⟨before, after, hMisfit⟩
            exact ⟨before, plan.keep, after, hMisfit⟩
          · rintro ⟨before, keep, after, hMisfit⟩
            rcases hMisfit.judged hJudged with
              ⟨queue, hPlan, hAged⟩
            cases hPlan
            constructor
            · exact refused_iff.mpr (.inr hMisfit.differs)
            · rcases List.exists_mem_of_ne_nil _ hMisfit.others with
                ⟨other, hOther⟩
              refine ⟨other.id, (hDeleted other.id).mpr ?_⟩
              exact ⟨other, hAged.perm.mem_iff.mpr hOther, rfl⟩

/- Where no volume is found, none was listed. -/
theorem Settlement.nothing
    {exchanges : List Exchange}
    (h : Settlement settings name size now disks exchanges (.ok none)) :
    disks = [] ∧ exchanges = [] := by
  have hSome :
      ∀ disk, (accept name size disk).map some ≠ .ok none := by
    intro disk
    cases accept name size disk <;> exact nofun
  generalize hResult : Except.ok none = result at h
  cases h with
  | empty => exact ⟨rfl, rfl⟩
  | single => exact absurd hResult.symm (hSome _)
  | @several _ _ outcome hSeveral hOutcome =>
      cases outcome with
      | ok keep => exact absurd hResult.symm (hSome keep)
      | error error => exact nomatch hResult

theorem loses_error_iff
    {ε α : Type}
    {error : ε} :
    Loses ((.error error, past) : Except ε α × Record) ↔
      ∃ id, (.delete, id) ∈ performed past := by
  simp [Loses]

theorem not_loses_ok
    {ε α : Type}
    {a : α} :
    ¬ Loses ((.ok a, past) : Except ε α × Record) := by
  simp [Loses]

variable {request : Csi.CreateVolume.Request}
variable {order : Order}
variable {found : List Disk}

/- What is done by the search, and what after it. -/
theorem run_create
    (hOrder : readOrder settings request = .ok order) :
    replies.run (create settings request) past =
      match
        replies.run
          (findExisting settings request.name order.size) past
      with
      | (.ok (some disk), now) =>
          (.ok (describeDisk settings disk), now)
      | (.ok none, now) =>
          replies.run (createNew settings request order) now
      | (.error error, now) => (.error error, now) := by
  rw [create_eq, hOrder]
  rcases hRun :
      replies.run (findExisting settings request.name order.size)
        past with
    ⟨error | existing, now⟩
  · exact Program.run_bind_of_error hRun _
  · apply (Program.run_bind_of_ok hRun _).trans
    cases existing <;> rfl

/- Volumes are lost before any new one is thought of. -/
theorem run_create_loses_iff
    (hOrder : readOrder settings request = .ok order)
    (hFound :
      replies (.backend (.find request.name)) [] = .ok found)
    (hUnfailed :
      ∀ exchange ∈ (replies.run (create settings request) []).2,
        exchange.failed = false) :
    Loses (replies.run (create settings request) []) ↔
      ∃ before keep after,
        Misfit settings order.size
          (replies .wallClock
            [⟨.backend (.find request.name), .ok found⟩])
          (found.filter fun disk => disk.status != .deleting)
          before keep after := by
  let seen : Record :=
    [⟨.backend (.find request.name), .ok found⟩]
  rcases settlement_of_settle settings request.name order.size
      (found.filter fun disk => disk.status != .deleting) replies
      seen with
    ⟨exchanges, result, hRun, hSettlement⟩
  have hQuiet : performed seen = [] := rfl
  rw [run_create hOrder, run_findExisting, hFound] at hUnfailed ⊢
  dsimp only at hUnfailed ⊢
  rw [hRun] at hUnfailed ⊢
  cases result with
  | error error =>
      rw [← hSettlement.loses_iff hQuiet hUnfailed]
      exact loses_error_iff.trans loses_error_iff.symm
  | ok existing =>
      cases existing with
      | some disk =>
          rw [← hSettlement.loses_iff hQuiet hUnfailed]
          exact iff_of_false not_loses_ok not_loses_ok
      | none =>
          rcases hSettlement.nothing with ⟨hNone, rfl⟩
          apply iff_of_false
          · apply not_loses_of_quiet
            exact (Transitions.createNew_quiet settings request
              order).performed_run.trans hQuiet
          · rw [hNone]
            exact no_misfit (by simp)

------------------------------------------------------------
-- Messages
------------------------------------------------------------

/- A request that was read is handled, and its result written. -/
theorem run_serve
    {message : Csi.CreateVolume.Message}
    (hRead : Csi.CreateVolume.Request.ofMessage message = .ok request) :
    replies.run ((provisioner settings).serve (.create message))
        past =
      (((replies.run (create settings request) past).1.mapError
          Csi.CreateVolume.Error.status).map
            fun volume => .created volume.toMessage,
        (replies.run (create settings request) past).2) :=
  Replies.run_procedure hRead

/- After a clean-up the volume that stays is accepted or not. -/
theorem run_serve_of_resolve
    {message : Csi.CreateVolume.Message}
    (hRead : Csi.CreateVolume.Request.ofMessage message = .ok request)
    (hOrder : readOrder settings request = .ok order)
    (hFound :
      replies (.backend (.find request.name)) [] = .ok found)
    (hSeveral :
      2 ≤ (found.filter fun disk => disk.status != .deleting).length)
    {now : Record}
    (hResolve :
      replies.run
          (Duplicates.resolve settings request.name order.size
            (found.filter fun disk => disk.status != .deleting))
          [⟨.backend (.find request.name), .ok found⟩] =
        (.ok keep, now)) :
    replies.run ((provisioner settings).serve (.create message))
        [] =
      (((accept request.name order.size keep).mapError
          Csi.CreateVolume.Error.status).map fun disk =>
            .created (describeDisk settings disk).toMessage,
        now) := by
  rw [run_serve hRead, run_create hOrder, run_findExisting, hFound]
  dsimp only
  rw [run_settle_several hSeveral hResolve]
  cases hAccept : accept request.name order.size keep with
  | ok disk =>
      simp only [Except.mapError, Except.bind, Except.map, hAccept]
  | error error =>
      simp only [Except.mapError, Except.bind, Except.map, hAccept]

theorem loses_written_iff
    {ε ε' α β : Type}
    {status : ε → ε'}
    {write : α → β}
    {result : Except ε α} :
    Loses ((result.mapError status).map write, past) ↔
      Loses (result, past) := by
  cases result <;>
    simp [Loses, Except.mapError, Except.map]

/-
  A creation in which no call fails is answered with an error
  after volumes were deleted exactly where all volumes of the
  name but one are copies that can be deleted, and that one has
  another size than the wanted one.
-/
theorem failed_create_deletes_iff
    (settings : Settings)
    (message : Csi.CreateVolume.Message)
    {replies : Replies}
    (hUnfailed :
      ∀ exchange ∈
          (replies.run
            ((provisioner settings).serve (.create message)) []).2,
        exchange.failed = false) :
    Loses
        (replies.run
          ((provisioner settings).serve (.create message)) []) ↔
      ∃ request order found before keep after,
        Csi.CreateVolume.Request.ofMessage message = .ok request ∧
          readOrder settings request = .ok order ∧
          replies (.backend (.find request.name)) [] = .ok found ∧
          Misfit settings order.size
            (replies .wallClock
              [⟨.backend (.find request.name), .ok found⟩])
            (found.filter fun disk => disk.status != .deleting)
            before keep after := by
  cases hRead : Csi.CreateVolume.Request.ofMessage message with
  | error refusal =>
      apply iff_of_false
      · apply not_loses_of_quiet
        change performed (replies.run
          (Csi.procedure _ _ _ (some (create settings))
            (Csi.CreateVolume.Request.ofMessage message)) []).2 = _
        rw [hRead]
        rfl
      · rintro ⟨_, _, _, _, _, _, hOther, _⟩
        exact nomatch hOther
  | ok request =>
      rw [run_serve hRead] at hUnfailed ⊢
      rw [loses_written_iff]
      cases hOrder : readOrder settings request with
      | error refusal =>
          apply iff_of_false
          · apply not_loses_of_quiet
            rw [create_eq, hOrder]
            rfl
          · rintro ⟨_, _, _, _, _, _, ⟨⟩, hOther, _⟩
            rw [hOrder] at hOther
            exact nomatch hOther
      | ok order =>
          cases hFound : replies (.backend (.find request.name)) []
            with
          | error error =>
              rw [run_create hOrder, run_findExisting, hFound]
                at hUnfailed
              exact nomatch hUnfailed _ (List.mem_singleton_self _)
          | ok found =>
              refine (run_create_loses_iff hOrder hFound
                hUnfailed).trans ?_
              constructor
              · rintro ⟨before, keep, after, hMisfit⟩
                exact ⟨request, order, found, before, keep, after,
                  rfl, hOrder, hFound, hMisfit⟩
              · rintro ⟨_, _, _, before, keep, after, ⟨⟩, hOrder',
                  hFound', hMisfit⟩
                rw [hOrder] at hOrder'
                rw [hFound] at hFound'
                cases hOrder'
                cases hFound'
                exact ⟨before, keep, after, hMisfit⟩

/-
  A volume of another plugin is listed between two copies, of
  which one is broken, and a third one that is being deleted.
-/
theorem failed_create_deletes_iff_foreign :
    let disk (id creator : String) (size : Nat)
        (status : Disk.Status) (createdAt : Int) : Disk :=
      ⟨id, "pvc-1", size, status, "cloud_ssd", "zone-a", [],
        createdAt, [(Disk.creatorTag, creator)]⟩
    let own := ({} : Settings).name
    let first := disk "vol-1" own 20 .error 9
    let foreign := disk "vol-2" "other.csi.io" 30 .available 6
    let deleting := disk "vol-3" own 20 .deleting 1
    let last := disk "vol-4" own 20 .available 3
    let message : Csi.CreateVolume.Message :=
      { name := "pvc-1"
        range := some { required := 20 * Capacity.gib }
        capabilities := [⟨some 1, some (.mount "" [])⟩] }
    let world : Memory.World :=
      { backend := { disks := [first, foreign, deleting, last] } }
    let replies : Replies :=
      fun request _ => (Memory.World.answer request world).1
    let run :=
      replies.run ((provisioner {}).serve (.create message)) []
    (∀ exchange ∈ run.2, exchange.failed = false) ∧
      Misfit {} 20 100000 [first, foreign, last] [first] foreign
        [last] ∧
      Loses run := by
  intro disk own first foreign deleting last message world replies
    run
  let found := [first, foreign, deleting, last]
  let listed := [first, foreign, last]
  let past : Record :=
    [⟨.backend (.delete "vol-1"), .ok ()⟩,
      ⟨.backend (.delete "vol-4"), .ok ()⟩,
      ⟨.wallClock, (100000 : Int)⟩,
      ⟨.backend (.find "pvc-1"), .ok found⟩]
  have hAge : Duplicates.byAge listed = [last, foreign, first] := by
    simp [listed, first, foreign, last, disk, Duplicates.byAge,
      List.mergeSort]
  have hPlan :
      Duplicates.plan {} "pvc-1" 20 100000 listed =
        .ok ⟨foreign, [last, first]⟩ := by
    unfold Duplicates.plan
    rw [hAge]
    decide
  have hResolve :
      replies.run (Duplicates.resolve {} "pvc-1" 20 listed)
          [⟨.backend (.find "pvc-1"), .ok found⟩] =
        (.ok foreign, past) := by
    rw [Duplicates.run_resolve_of_plan hPlan rfl]
    rfl
  have hFound : replies (.backend (.find "pvc-1")) [] = .ok found :=
    rfl
  have hSeveral :
      2 ≤ (found.filter fun disk =>
        disk.status != .deleting).length := by
    decide
  have hMessage :
      ∃ request,
        Csi.CreateVolume.Request.ofMessage message = .ok request ∧
          request.name = "pvc-1" ∧
          ∃ order, readOrder {} request = .ok order ∧
            order.size = 20 :=
    ⟨_, rfl, rfl, _, rfl, rfl⟩
  rcases hMessage with
    ⟨⟨_, _, _, _, _, _, _⟩, hRead, rfl, ⟨_, _⟩, hOrder, rfl⟩
  have hRun :
      run =
        (((accept "pvc-1" 20 foreign).mapError
          Csi.CreateVolume.Error.status).map fun disk =>
            .created (describeDisk {} disk).toMessage, past) :=
    run_serve_of_resolve hRead hOrder hFound hSeveral hResolve
  have hUnfailed :
      ∀ exchange ∈ run.2, exchange.failed = false := by
    rw [hRun]
    decide
  have hMisfit :
      Misfit {} 20 100000 listed [first] foreign [last] :=
    ⟨rfl, List.cons_ne_nil _ _, by decide, by decide, by decide,
      by decide⟩
  refine ⟨hUnfailed, hMisfit, ?_⟩
  apply (failed_create_deletes_iff {} message hUnfailed).mpr
  exact ⟨_, _, found, [first], foreign, [last], hRead, hOrder,
    hFound, hMisfit⟩

/-
  The copy has the wanted size and is deleted for the older
  volume, which has not, so that the creation is refused.
-/
theorem failed_create_deletes_copy :
    let disk (id : String) (size : Nat) (createdAt : Int) : Disk :=
      ⟨id, "pvc-1", size, .available, "cloud_ssd", "zone-a", [],
        createdAt, [(Disk.creatorTag, ({} : Settings).name)]⟩
    let message : Csi.CreateVolume.Message :=
      { name := "pvc-1"
        range := some { required := 20 * Capacity.gib }
        capabilities := [⟨some 1, some (.mount "" [])⟩] }
    let world : Memory.World :=
      { backend :=
          { disks := [disk "vol-a" 30 0, disk "vol-b" 20 5] } }
    let replies : Replies :=
      fun request _ => (Memory.World.answer request world).1
    let run :=
      replies.run ((provisioner {}).serve (.create message)) []
    (∀ exchange ∈ run.2, exchange.failed = false) ∧
      run.1 =
        .error ⟨.alreadyExists,
          "volume vol-a named pvc-1 has 30Gi, requested 20Gi"⟩ ∧
      (.delete, "vol-b") ∈ performed run.2 := by
  intro disk message world replies run
  let found := [disk "vol-a" 30 0, disk "vol-b" 20 5]
  let past : Record :=
    [⟨.backend (.delete "vol-b"), .ok ()⟩,
      ⟨.wallClock, (100000 : Int)⟩,
      ⟨.backend (.find "pvc-1"), .ok found⟩]
  have hAge : Duplicates.byAge found = found := by
    simp [found, disk, Duplicates.byAge, List.mergeSort]
  have hPlan :
      Duplicates.plan {} "pvc-1" 20 100000 found =
        .ok ⟨disk "vol-a" 30 0, [disk "vol-b" 20 5]⟩ := by
    unfold Duplicates.plan
    rw [hAge]
    decide
  have hResolve :
      replies.run (Duplicates.resolve {} "pvc-1" 20 found)
          [⟨.backend (.find "pvc-1"), .ok found⟩] =
        (.ok (disk "vol-a" 30 0), past) := by
    rw [Duplicates.run_resolve_of_plan hPlan rfl]
    rfl
  have hFound : replies (.backend (.find "pvc-1")) [] = .ok found :=
    rfl
  have hSeveral :
      2 ≤ (found.filter fun disk =>
        disk.status != .deleting).length :=
    Nat.le_refl _
  have hMessage :
      ∃ request,
        Csi.CreateVolume.Request.ofMessage message = .ok request ∧
          request.name = "pvc-1" ∧
          ∃ order, readOrder {} request = .ok order ∧
            order.size = 20 :=
    ⟨_, rfl, rfl, _, rfl, rfl⟩
  rcases hMessage with
    ⟨⟨_, _, _, _, _, _, _⟩, hRead, rfl, ⟨_, _⟩, hOrder, rfl⟩
  have hRun :
      run =
        (((accept "pvc-1" 20 (disk "vol-a" 30 0)).mapError
          Csi.CreateVolume.Error.status).map fun disk =>
            .created (describeDisk {} disk).toMessage, past) :=
    run_serve_of_resolve hRead hOrder hFound hSeveral hResolve
  rw [hRun]
  decide

end Creation

end Service

end BlockVolumes
