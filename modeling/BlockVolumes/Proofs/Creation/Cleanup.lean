import BlockVolumes.Memory.World
import BlockVolumes.Proofs.Creation.Survivor
import BlockVolumes.Proofs.Transitions.Record

/-
  Cleaning up several volumes of one name, in whatever way the
  backend replies. What is done and how it ends is settled by
  the volumes, the settings and the clock, up to the replies to
  the deletions; and it is settled by the volumes in any order,
  unless several oldest ones are to choose from.

  Key definitions include:
    * `Service.Duplicates.Deletions`
    * `Service.Duplicates.Outcome`
    * `Service.Duplicates.EndsAlike`

  Key theorems include:
    * `Service.Duplicates.outcome_of_resolve`
    * `Service.Duplicates.resolve_outcome`
    * `Service.Duplicates.resolve_perm`
-/

namespace BlockVolumes

namespace Service

namespace Duplicates

open Host (Exchange Record Replies performed)

------------------------------------------------------------
-- Deleting One Volume After the Other
------------------------------------------------------------

/-
  What is exchanged with the backend while a queue of volumes
  is deleted, and how that ends. A volume that is not there
  counts as deleted; any other failure is the end.
-/
inductive Deletions :
    List Disk → List Exchange → Except Error Unit → Prop where
  | done : Deletions [] [] (.ok ())
  | deleted
      {disk : Disk}
      {queue : List Disk}
      {exchanges : List Exchange}
      {outcome : Except Error Unit}
      {reply : Except Backend.Error Unit}
      (hGone :
        ∀ error, reply = .error error → error.isNotFound = true)
      (hRest : Deletions queue exchanges outcome) :
      Deletions (disk :: queue)
        (⟨.backend (.delete disk.id), reply⟩ :: exchanges)
        outcome
  | stopped
      {disk : Disk}
      {queue : List Disk}
      {error : Backend.Error}
      (hFailed : error.isNotFound = false) :
      Deletions (disk :: queue)
        [⟨.backend (.delete disk.id), .error error⟩]
        (.error (.during "delete duplicate volume" disk.id
          (.backend error)))

variable {queue disks disks' : List Disk}
variable {exchanges : List Exchange}
variable {outcome : Except Error Unit}
variable {past past' : Record}

/- Nothing but volumes of the queue is deleted. -/
theorem Deletions.mem_queue
    (h : Deletions queue exchanges outcome)
    {exchange : Exchange}
    (hMem : exchange ∈ exchanges) :
    ∃ disk ∈ queue,
      exchange.request = .backend (.delete disk.id) := by
  induction h with
  | done => simp at hMem
  | @deleted disk queue exchanges outcome reply hGone hRest ih =>
      rcases List.mem_cons.mp hMem with rfl | hLater
      · exact ⟨disk, by simp, rfl⟩
      · rcases ih hLater with ⟨other, hOther, hRequest⟩
        exact ⟨other, List.mem_cons_of_mem _ hOther, hRequest⟩
  | @stopped disk queue error hFailed =>
      rw [List.mem_singleton] at hMem
      subst hMem
      exact ⟨disk, by simp, rfl⟩

/- Where no deletion fails, the whole queue is deleted. -/
theorem Deletions.all_of_succeed
    (h : Deletions queue exchanges outcome)
    (hSucceed :
      ∀ exchange ∈ exchanges, exchange.failedDeletion = false) :
    outcome = .ok () ∧
      ∀ disk ∈ queue, ∃ exchange ∈ exchanges,
        exchange.request = .backend (.delete disk.id) := by
  induction h with
  | done => simp
  | deleted hGone hRest ih =>
      have hLater := ih fun exchange hMem =>
        hSucceed exchange (List.mem_cons_of_mem _ hMem)
      refine ⟨hLater.1, ?_⟩
      intro other hOther
      rcases List.mem_cons.mp hOther with rfl | hMem
      · exact ⟨_, List.mem_cons_self .., rfl⟩
      · rcases hLater.2 other hMem with
          ⟨exchange, hExchange, hRequest⟩
        exact ⟨exchange, List.mem_cons_of_mem _ hExchange, hRequest⟩
  | stopped hFailed =>
      have hGone := hSucceed _ (List.mem_cons_self ..)
      rw [Exchange.failedDeletion, hFailed] at hGone
      exact nomatch hGone

/- One step for each volume, by the reply to its deletion. -/
theorem deletions_of_removeAll
    (replies : Replies)
    (queue : List Disk)
    (past : Record) :
    ∃ exchanges outcome,
      replies.run (removeAll queue) past =
          (outcome, exchanges.reverse ++ past) ∧
        Deletions queue exchanges outcome := by
  induction queue generalizing past with
  | nil => exact ⟨[], .ok (), rfl, .done⟩
  | cons disk queue ih =>
      have hStep :
          replies.run (removeAll (disk :: queue)) past =
            replies.run
              (match replies (.backend (.delete disk.id)) past with
              | .ok () => removeAll queue
              | .error error =>
                  if error.isNotFound then removeAll queue
                  else
                    .failed (.during "delete duplicate volume"
                      disk.id (.backend error)))
              (⟨.backend (.delete disk.id),
                replies (.backend (.delete disk.id)) past⟩ ::
                past) :=
        rfl
      have hGoOn :
          ∀ reply : Except Backend.Error Unit,
            (∀ error, reply = .error error →
              error.isNotFound = true) →
            ∃ exchanges outcome,
              replies.run (removeAll queue)
                  (⟨.backend (.delete disk.id), reply⟩ :: past) =
                (outcome, exchanges.reverse ++ past) ∧
              Deletions (disk :: queue) exchanges outcome := by
        intro reply hGone
        rcases ih (⟨.backend (.delete disk.id), reply⟩ :: past) with
          ⟨exchanges, outcome, hRun, hDeletions⟩
        refine ⟨⟨.backend (.delete disk.id), reply⟩ :: exchanges,
          outcome, ?_, .deleted hGone hDeletions⟩
        rw [List.reverse_cons, List.append_assoc]
        exact hRun
      rw [hStep]
      cases hReply : replies (.backend (.delete disk.id)) past with
      | ok _ => exact hGoOn (.ok ()) nofun
      | error error =>
          by_cases hGone : error.isNotFound = true
          · simp only [hGone, if_true]
            apply hGoOn
            rintro _ ⟨⟩
            exact hGone
          · rw [Bool.not_eq_true] at hGone
            simp only [hGone, Bool.false_eq_true, if_false]
            exact
              ⟨[⟨.backend (.delete disk.id), .error error⟩], _, rfl,
                .stopped hGone⟩

------------------------------------------------------------
-- The Whole Clean-Up
------------------------------------------------------------

/-
  What is exchanged with the backend in a clean-up, once the
  clock was read, and how it ends. Where the volumes forbid it
  there is no deletion; else all but one are to be deleted from
  the oldest to the youngest, and that one is returned.
-/
inductive Outcome
    (settings : Settings)
    (name : String)
    (size : Nat)
    (now : Int)
    (disks : List Disk) :
    List Exchange → Except Error Disk → Prop where
  | refused
      {error : Error}
      (hJudged :
        Judged (OwnCopy settings size now) name disks
          (.error error)) :
      Outcome settings name size now disks [] (.error error)
  | removed
      {plan : Plan}
      {exchanges : List Exchange}
      {outcome : Except Error Unit}
      (hJudged :
        Judged (OwnCopy settings size now) name disks (.ok plan))
      (hDeletions : Deletions plan.remove exchanges outcome) :
      Outcome settings name size now disks exchanges
        (outcome.map fun _ => plan.keep)

variable {settings : Settings}
variable {name : String}
variable {size : Nat}
variable {now : Int}
variable {result result' : Except Error Disk}

/- Where there is no plan, only the clock is read. -/
theorem run_resolve_of_refusal
    {error : Error}
    {replies : Replies}
    (hPlan :
      plan settings name size now disks = .error error)
    (hClock : replies .wallClock past = now) :
    replies.run (resolve settings name size disks) past =
      (.error error, ⟨.wallClock, now⟩ :: past) := by
  subst hClock
  change replies.run ((Program.ofExcept (plan ..)).bind _) _ = _
  rw [hPlan]
  rfl

/- A plan is made by the clock and then carried out. -/
theorem run_resolve_of_plan
    {found : Plan}
    {replies : Replies}
    (hPlan :
      plan settings name size now disks = .ok found)
    (hClock : replies .wallClock past = now) :
    replies.run (resolve settings name size disks) past =
      replies.run
        ((removeAll found.remove).bind fun _ => .done found.keep)
        (⟨.wallClock, now⟩ :: past) := by
  subst hClock
  change replies.run ((Program.ofExcept (plan ..)).bind _) _ = _
  rw [hPlan]
  rfl

theorem outcome_of_resolve
    (settings : Settings)
    (name : String)
    (size : Nat)
    (hSome : disks ≠ [])
    (replies : Replies)
    (past : Record) :
    ∃ exchanges result,
      replies.run (resolve settings name size disks) past =
          (result,
            exchanges.reverse ++
              ⟨.wallClock, replies .wallClock past⟩ :: past) ∧
        Outcome settings name size (replies .wallClock past) disks
          exchanges result := by
  let now : Int := replies .wallClock past
  have hJudged :
      Judged (OwnCopy settings size now) name disks
        (plan settings name size now disks) :=
    judged_plan hSome
  cases hPlan : plan settings name size now disks with
  | error error =>
      rw [hPlan] at hJudged
      exact ⟨[], .error error, run_resolve_of_refusal hPlan rfl,
        .refused hJudged⟩
  | ok plan =>
      rw [hPlan] at hJudged
      rcases deletions_of_removeAll replies plan.remove
          (⟨.wallClock, now⟩ :: past) with
        ⟨exchanges, outcome, hRun, hDeletions⟩
      refine ⟨exchanges, _, ?_, .removed hJudged hDeletions⟩
      rw [run_resolve_of_plan hPlan rfl]
      cases outcome with
      | ok _ => exact Program.run_bind_of_ok hRun _
      | error error => exact Program.run_bind_of_error hRun _

/-
  The volume that stays is not deleted, unless another volume
  is listed under the same identifier.
-/
theorem Outcome.spared
    (h : Outcome settings name size now disks exchanges result)
    {before after : List Disk}
    {keep : Disk}
    (hDisks : disks = before ++ keep :: after)
    (hStays : Stays (OwnCopy settings size now) before keep after)
    {exchange : Exchange}
    (hMem : exchange ∈ exchanges)
    (hDelete : exchange.request = .backend (.delete keep.id)) :
    ∃ other ∈ before ++ after, other.id = keep.id := by
  cases h with
  | refused => simp at hMem
  | removed hJudged hDeletions =>
      rcases hDeletions.mem_queue hMem with
        ⟨other, hOther, hRequest⟩
      have hId : other.id = keep.id := by
        rw [hDelete] at hRequest
        injection hRequest with hCall
        injection hCall with hId
        exact hId.symm
      generalize hPlan : Except.ok _ = judgement at hJudged
      cases hJudged with
      | unclear => exact nomatch hPlan
      | clear hOtherStays hVerdict =>
          rcases hOtherStays.eq_of_eq hStays hDisks with
            ⟨rfl, rfl, rfl⟩
          cases hVerdict with
          | broken => exact nomatch hPlan
          | busy => exact nomatch hPlan
          | idle _ _ hAged =>
              cases hPlan
              exact ⟨other, hAged.perm.mem_iff.mp hOther, hId⟩

/-
  A clean-up refuses, or deletes all volumes but the one that
  stays, from the oldest to the youngest, as far as the backend
  lets it, and returns that one; and the volume that stays is
  not deleted.
-/
theorem resolve_outcome
    (settings : Settings)
    (name : String)
    (size : Nat)
    {disks : List Disk}
    (hSome : disks ≠ [])
    (replies : Replies) :
    ∃ exchanges result,
      replies.run (resolve settings name size disks) [] =
          (result,
            exchanges.reverse ++
              [⟨.wallClock, replies .wallClock []⟩]) ∧
        Outcome settings name size (replies .wallClock []) disks
          exchanges result ∧
        ∀ before keep after,
          disks = before ++ keep :: after →
            Stays (OwnCopy settings size (replies .wallClock []))
              before keep after →
              (∀ other ∈ before ++ after, other.id ≠ keep.id) →
                ∀ exchange ∈ exchanges,
                  exchange.request ≠ .backend (.delete keep.id) := by
  rcases outcome_of_resolve settings name size hSome replies []
    with ⟨exchanges, result, hRun, hOutcome⟩
  refine ⟨exchanges, result, hRun, hOutcome, ?_⟩
  intro before keep after hDisks hStays hIds exchange hMem hDelete
  rcases hOutcome.spared hDisks hStays hMem hDelete with
    ⟨other, hOther, hId⟩
  exact hIds other hOther hId

/-
  A volume of another plugin stays. Of the two copies the older
  one is gone already, and the younger one is deleted.
-/
theorem resolve_outcome_foreign :
    let disk (id creator : String) (createdAt : Int) : Disk :=
      ⟨id, "pvc-1", 20, .available, "cloud_ssd", "zone-a", [],
        createdAt, [(Disk.creatorTag, creator)]⟩
    let own := ({} : Settings).name
    let foreign := disk "vol-1" "other.csi.io" 6
    let disks :=
      [disk "vol-3" own 9, foreign, disk "vol-2" own 3]
    disks ≠ [] ∧
      Outcome {} "pvc-1" 20 100 disks
        [⟨.backend (.delete "vol-2"), .error (.notFound "vol-2")⟩,
          ⟨.backend (.delete "vol-3"), .ok ()⟩]
        (.ok foreign) := by
  intro disk own foreign disks
  let world : Memory.World :=
    { backend :=
        { disks := [foreign, disk "vol-3" own 9], now := 100 } }
  let replies : Replies :=
    fun request _ => (Memory.World.answer request world).1
  have hAge :
      byAge disks =
        [disk "vol-2" own 3, foreign, disk "vol-3" own 9] := by
    simp [disks, disk, foreign, byAge, List.mergeSort]
  have hPlan :
      plan {} "pvc-1" 20 100 disks =
        .ok ⟨foreign, [disk "vol-2" own 3, disk "vol-3" own 9]⟩ := by
    unfold plan
    rw [hAge]
    decide
  have hRun :
      replies.run (resolve {} "pvc-1" 20 disks) [] =
        (.ok foreign,
          [⟨.backend (.delete "vol-2"), .error (.notFound "vol-2")⟩,
            ⟨.backend (.delete "vol-3"), .ok ()⟩].reverse ++
              [⟨.wallClock, (100 : Int)⟩]) := by
    rw [run_resolve_of_plan hPlan rfl]
    rfl
  have hSome : disks ≠ [] := List.cons_ne_nil _ _
  rcases resolve_outcome {} "pvc-1" 20 hSome replies with
    ⟨exchanges, result, hEnd, hOutcome, _⟩
  rw [hRun, Prod.mk.injEq] at hEnd
  rcases hEnd with ⟨rfl, hRecord⟩
  rw [← List.reverse_injective (List.append_cancel_right hRecord)]
    at hOutcome
  exact ⟨hSome, hOutcome⟩

/-
  Of two copies under one identifier the older one stays, and
  the deletion of the younger one names it. Where two volumes
  may not be removed, one that may be is counted with them.
-/
theorem resolve_deletes_repeated_survivor :
    let disk (id creator : String) (createdAt : Int) : Disk :=
      ⟨id, "pvc-1", 20, .available, "cloud_ssd", "zone-a", [],
        createdAt, [(Disk.creatorTag, creator)]⟩
    let own := ({} : Settings).name
    let keep := disk "vol-1" own 3
    let repeated := [keep, disk "vol-1" own 9]
    let mixed :=
      [disk "vol-1" "other.csi.io" 3,
        disk "vol-2" "other.csi.io" 6, disk "vol-3" own 9]
    let replies : Replies :=
      fun request _ =>
        (Memory.World.answer request
          { backend := { disks := repeated, now := 100 } }).1
    (OwnCopy {} 20 100 keep ∧
      replies.run (resolve {} "pvc-1" 20 repeated) [] =
        (.ok keep,
          [⟨.backend (.delete keep.id), .ok ()⟩,
            ⟨.wallClock, (100 : Int)⟩])) ∧
    (mixed.map fun disk => decide (OwnCopy {} 20 100 disk)) =
        [false, false, true] ∧
      replies.run (resolve {} "pvc-1" 20 mixed) [] =
        (.error (.duplicates "pvc-1" 3),
          [⟨.wallClock, (100 : Int)⟩]) := by
  intro disk own keep repeated mixed replies
  have hAge : byAge repeated = repeated := by
    simp [repeated, keep, disk, byAge, List.mergeSort]
  have hAgeMixed : byAge mixed = mixed := by
    simp [mixed, disk, byAge, List.mergeSort]
  have hPlan :
      plan {} "pvc-1" 20 100 repeated =
        .ok ⟨keep, [disk "vol-1" own 9]⟩ := by
    unfold plan
    rw [hAge]
    decide
  have hPlanMixed :
      plan {} "pvc-1" 20 100 mixed =
        .error (.duplicates "pvc-1" 3) := by
    unfold plan
    rw [hAgeMixed]
    decide
  refine ⟨⟨by decide, ?_⟩, by decide,
    run_resolve_of_refusal hPlanMixed rfl⟩
  rw [run_resolve_of_plan hPlan rfl]
  rfl

------------------------------------------------------------
-- Volumes Listed in Another Order
------------------------------------------------------------

/-
  Whether two clean-ups end in the same way: both refuse alike,
  or both keep the same volume and have deleted the same ones.
-/
def EndsAlike :
    Except Error Disk × Record → Except Error Disk × Record → Prop
  | (.ok keep, past), (.ok keep', past') =>
      keep.id = keep'.id ∧
        ∀ id,
          (.delete, id) ∈ performed past ↔
            (.delete, id) ∈ performed past'
  | (.error error, _), (.error error', _) => Alike error error'
  | _, _ => False

/- Without failures exactly the queued volumes are deleted. -/
theorem Deletions.mem_performed_iff
    (h : Deletions queue exchanges outcome)
    (hSucceed :
      ∀ exchange ∈ exchanges.reverse ++ past,
        exchange.failedDeletion = false)
    (hQuiet : performed past = []) :
    outcome = .ok () ∧
      ∀ id,
        (.delete, id) ∈ performed (exchanges.reverse ++ past) ↔
          ∃ disk ∈ queue, disk.id = id := by
  have hDeleted :
      ∀ exchange ∈ exchanges, exchange.failedDeletion = false := by
    intro exchange hExchange
    apply hSucceed
    simp [hExchange]
  rcases h.all_of_succeed hDeleted with ⟨hOk, hAll⟩
  refine ⟨hOk, fun id => ?_⟩
  rw [Host.performed_append, hQuiet, List.append_nil,
    Host.mem_performed_delete_iff]
  constructor
  · rintro ⟨exchange, hExchange, hDelete⟩
    rw [List.mem_reverse] at hExchange
    rcases h.mem_queue hExchange with ⟨disk, hDisk, hRequest⟩
    rw [hDelete] at hRequest
    cases hRequest
    exact ⟨disk, hDisk, rfl⟩
  · rintro ⟨disk, hDisk, rfl⟩
    rcases hAll disk hDisk with ⟨exchange, hExchange, hRequest⟩
    exact ⟨exchange, List.mem_reverse.mpr hExchange, hRequest⟩

/- Where nothing is listed there is none that stays. -/
theorem plan_nil :
    plan settings name size now [] =
      .error (.duplicates name 0) := by
  simp [plan, byAge, survivor?]

/-
  A clean-up in which no deletion fails ends in the same way in
  whatever order the volumes are listed, unless all of them may
  be removed and several are the oldest.
-/
theorem resolve_perm
    {replies replies' : Replies}
    (hPerm : disks.Perm disks')
    (hClock : replies' .wallClock [] = replies .wallClock [])
    (hOldest :
      (∀ disk ∈ disks,
        OwnCopy settings size (replies .wallClock []) disk) →
        OneOldest disks)
    (hSucceed :
      ∀ exchange ∈
          (replies.run (resolve settings name size disks) []).2,
        exchange.failedDeletion = false)
    (hSucceed' :
      ∀ exchange ∈
          (replies'.run (resolve settings name size disks') []).2,
        exchange.failedDeletion = false) :
    EndsAlike (replies.run (resolve settings name size disks) [])
      (replies'.run (resolve settings name size disks') []) := by
  by_cases hSome : disks = []
  · subst hSome
    rw [List.nil_perm.mp hPerm,
      run_resolve_of_refusal plan_nil rfl,
      run_resolve_of_refusal plan_nil rfl]
    exact .duplicates
  have hSome' : disks' ≠ [] := by
    rintro rfl
    exact hSome hPerm.eq_nil
  rcases outcome_of_resolve settings name size hSome replies []
    with ⟨exchanges, result, hRun, hOutcome⟩
  rcases outcome_of_resolve settings name size hSome' replies' []
    with ⟨exchanges', result', hRun', hOutcome'⟩
  rw [hClock] at hOutcome'
  rw [hRun] at hSucceed ⊢
  rw [hRun'] at hSucceed' ⊢
  cases hOutcome with
  | refused hJudged =>
      cases hOutcome' with
      | refused hJudged' =>
          exact hJudged.agree hJudged' hPerm hOldest
      | removed hJudged' _ =>
          exact (hJudged.agree hJudged' hPerm hOldest).elim
  | removed hJudged hDeletions =>
      cases hOutcome' with
      | refused hJudged' =>
          exact (hJudged.agree hJudged' hPerm hOldest).elim
      | removed hJudged' hDeletions' =>
          rcases hJudged.agree hJudged' hPerm hOldest with
            ⟨hKeep, hRemove⟩
          rcases hDeletions.mem_performed_iff hSucceed rfl with
            ⟨rfl, hDeleted⟩
          rcases hDeletions'.mem_performed_iff hSucceed' rfl with
            ⟨rfl, hDeleted'⟩
          refine ⟨congrArg Disk.id hKeep, fun id => ?_⟩
          rw [hDeleted, hDeleted']
          simp only [hRemove.mem_iff]

/-
  Two copies of different age: the older one stays, also where
  it is listed last.
-/
theorem resolve_perm_two_ages :
    let copy (id : String) (createdAt : Int) : Disk :=
      ⟨id, "pvc-1", 20, .available, "cloud_ssd", "zone-a", [],
        createdAt, [(Disk.creatorTag, ({} : Settings).name)]⟩
    let disks := [copy "vol-1" 3, copy "vol-2" 9]
    let replies : Replies :=
      fun request _ =>
        (Memory.World.answer request
          { backend := { disks := disks } }).1
    disks.Perm disks.reverse ∧ OneOldest disks ∧
      (replies.run (resolve {} "pvc-1" 20 disks.reverse) []).1 =
        .ok (copy "vol-1" 3) ∧
      EndsAlike (replies.run (resolve {} "pvc-1" 20 disks) [])
        (replies.run (resolve {} "pvc-1" 20 disks.reverse) []) := by
  intro copy disks replies
  have hPerm : disks.Perm disks.reverse :=
    (List.reverse_perm disks).symm
  have hOldest : OneOldest disks := by
    unfold OneOldest
    decide
  have hRun :
      ∀ listed, byAge listed = disks →
        replies.run (resolve {} "pvc-1" 20 listed) [] =
          (.ok (copy "vol-1" 3),
            [⟨.backend (.delete "vol-2"), .ok ()⟩,
              ⟨.wallClock, (100000 : Int)⟩]) := by
    intro listed hAge
    have hPlan :
        plan {} "pvc-1" 20 100000 listed =
          .ok ⟨copy "vol-1" 3, [copy "vol-2" 9]⟩ := by
      unfold plan
      rw [hAge]
      rfl
    rw [run_resolve_of_plan hPlan rfl]
    rfl
  have hListed := hRun disks (by
    simp [disks, copy, byAge, List.mergeSort])
  have hReverse := hRun disks.reverse (by
    simp [disks, copy, byAge, List.mergeSort])
  refine ⟨hPerm, hOldest, by rw [hReverse], ?_⟩
  apply resolve_perm hPerm rfl fun _ => hOldest
  · rw [hListed]
    decide
  · rw [hReverse]
    decide

/-
  Of two copies of the same age the one that is listed first
  stays. If that is the broken one, the clean-up is refused.
-/
theorem resolve_not_perm :
    let copy (id : String) (status : Disk.Status) : Disk :=
      ⟨id, "pvc-1", 20, status, "cloud_ssd", "zone-a", [], 0,
        [(Disk.creatorTag, ({} : Settings).name)]⟩
    let disks := [copy "vol-a" .available, copy "vol-b" .error]
    let replies : Replies :=
      fun request _ =>
        (Memory.World.answer request
          { backend := { disks := disks } }).1
    disks.Perm disks.reverse ∧ (disks.map (·.id)).Nodup ∧
      (∀ exchange ∈
          (replies.run (resolve {} "pvc-1" 20 disks) []).2,
        exchange.failedDeletion = false) ∧
      (∀ exchange ∈
          (replies.run (resolve {} "pvc-1" 20 disks.reverse) []).2,
        exchange.failedDeletion = false) ∧
      ¬ EndsAlike (replies.run (resolve {} "pvc-1" 20 disks) [])
        (replies.run (resolve {} "pvc-1" 20 disks.reverse) []) := by
  intro copy disks replies
  have hAge : byAge disks = disks := by
    simp [disks, copy, byAge, List.mergeSort]
  have hAgeReverse : byAge disks.reverse = disks.reverse := by
    simp [disks, copy, byAge, List.mergeSort]
  have hPlan :
      plan {} "pvc-1" 20 100000 disks =
        .ok ⟨copy "vol-a" .available, [copy "vol-b" .error]⟩ := by
    unfold plan
    rw [hAge]
    decide
  have hPlanReverse :
      plan {} "pvc-1" 20 100000 disks.reverse =
        .error (.duplicates "pvc-1" 2) := by
    unfold plan
    rw [hAgeReverse]
    decide
  have hRun :
      replies.run (resolve {} "pvc-1" 20 disks) [] =
        (.ok (copy "vol-a" .available),
          [⟨.backend (.delete "vol-b"), .ok ()⟩,
            ⟨.wallClock, (100000 : Int)⟩]) := by
    rw [run_resolve_of_plan hPlan rfl]
    rfl
  have hRunReverse :
      replies.run (resolve {} "pvc-1" 20 disks.reverse) [] =
        (.error (.duplicates "pvc-1" 2),
          [⟨.wallClock, (100000 : Int)⟩]) :=
    run_resolve_of_refusal hPlanReverse rfl
  rw [hRun, hRunReverse]
  refine ⟨(List.reverse_perm disks).symm, by decide, ?_, ?_, id⟩
  · decide
  · decide

end Duplicates

end Service

end BlockVolumes
