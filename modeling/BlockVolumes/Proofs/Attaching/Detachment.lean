import BlockVolumes.Memory.World
import BlockVolumes.Proofs.Csi.Reading
import BlockVolumes.Proofs.Waiting.Polls
import BlockVolumes.Service.Provisioner

/-
  Unpublishing a volume from a node, in whatever way the
  backend replies. The first look at the volume decides whether
  it is detached; if it is, the call goes well exactly when the
  detachment did and was seen to have come to an end in time.

  Key definitions include:
    * `Service.Attaching.InUseThere`
    * `Service.Attaching.DetachedInTime`
    * `Service.Attaching.Unpublishes`

  Key theorems include:
    * `Service.Attaching.run_unpublishFrom_of_inUseThere`
    * `Service.Attaching.run_unpublishFrom_of_not`
    * `Service.Attaching.unpublish_detaches_seen`
-/

namespace BlockVolumes

namespace Service

namespace Attaching

open Csi (UnpublishVolume.Error)
open Csi.Controller (Answer)
open Host (Exchange Record Replies changes looks)

------------------------------------------------------------
-- What There Is to Detach
------------------------------------------------------------

/- Whether a look shows a volume in use on a node. -/
def InUseThere
    (nodeId : String) :
    Except Backend.Error Disk → Prop
  | .ok disk =>
      disk.status = .inUse ∧
        ∃ attachment ∈ disk.attachments,
          attachment.instanceId = nodeId
  | .error _ => False

/-
  Whether a detachment is accepted, and a poll that is put in
  time shows that it has come to an end. The polls before it
  are put one after the other, with a pause after each.
-/
def DetachedInTime
    (polling : Polling)
    (replies : Replies)
    (volumeId nodeId : String)
    (past : Record) : Prop :=
  replies (.backend (.detach volumeId nodeId)) past = .ok () ∧
    ∃ k seen,
      k * polling.interval.pause ≤ polling.timeout.span ∧
        Wait.sight replies volumeId polling.interval.pause
            (⟨.backend (.detach volumeId nodeId), .ok ()⟩ :: past)
            k =
          .ok seen ∧
        seen.status ≠ .inUse ∧ seen.status ≠ .detaching

/-
  How a call ends that looks at a volume first, and which
  changes it asks for, by what it sees.
-/
inductive Unpublishes
    (polling : Polling)
    (replies : Replies)
    (volumeId nodeId : String) :
    Except Backend.Error Disk → Except Rpc.Status Answer →
      List Backend.Call → Prop where
  | gone
      {error : Backend.Error} :
      error.isNotFound = true →
      Unpublishes polling replies volumeId nodeId
        (.error error) (.ok .unpublished) []
  | unread
      {error : Backend.Error} :
      error.isNotFound = false →
      Unpublishes polling replies volumeId nodeId
        (.error error)
        (.error (Error.status
          (.during "get volume" volumeId (.backend error)))) []
  | idle
      {disk : Disk} :
      disk.status ≠ .inUse →
      Unpublishes polling replies volumeId nodeId
        (.ok disk) (.ok .unpublished) []
  | nowhere
      {disk : Disk} :
      disk.status = .inUse →
      disk.attachments = [] →
      Unpublishes polling replies volumeId nodeId
        (.ok disk)
        (.error ⟨.internal, "Volume in inconsistent state: " ++
          ("volume " ++ volumeId ++
            " is in use without any attachment")⟩) []
  | elsewhere
      {disk : Disk} :
      disk.status = .inUse →
      disk.attachments ≠ [] →
      (∀ attachment ∈ disk.attachments,
        attachment.instanceId ≠ nodeId) →
      Unpublishes polling replies volumeId nodeId
        (.ok disk) (.ok .unpublished) []
  | detached
      {disk : Disk}
      {answer : Except Rpc.Status Answer} :
      InUseThere nodeId (.ok disk) →
      (answer = .ok .unpublished ↔
        DetachedInTime polling replies volumeId nodeId
          [⟨.backend (.get volumeId), .ok disk⟩]) →
      Unpublishes polling replies volumeId nodeId
        (.ok disk) answer [.detach volumeId nodeId]

variable {settings : Settings}
variable {volumeId nodeId : String}
variable {disk : Disk}
variable {replies : Replies}
variable {past : Record}

theorem isSome_attachment?_iff :
    (disk.attachment? nodeId).isSome = true ↔
      ∃ attachment ∈ disk.attachments,
        attachment.instanceId = nodeId := by
  simp [Disk.attachment?]

theorem isDetached_eq_true_iff :
    isDetached disk = true ↔
      disk.status ≠ .inUse ∧ disk.status ≠ .detaching := by
  simp [isDetached]

------------------------------------------------------------
-- Detaching
------------------------------------------------------------

/- What is done about a volume that is in use on the node. -/
theorem unpublishFrom_of_inUseThere
    (h : InUseThere nodeId (.ok disk)) :
    unpublishFrom settings volumeId nodeId disk =
      ((within (during .backend "detach volume" volumeId
          (Host.backend (.detach volumeId nodeId)))).bind
        fun _ =>
          (within (Wait.untilMet settings.polling volumeId
            "detached" isDetached)).bind fun _ => .done ()) := by
  have hSome := isSome_attachment?_iff.mpr h.2
  have hNotEmpty : disk.attachments.isEmpty = false := by
    rcases h.2 with ⟨attachment, hMem, _⟩
    rw [List.isEmpty_eq_false_iff]
    exact List.ne_nil_of_mem hMem
  unfold unpublishFrom
  rw [if_neg (not_not_intro h.1), hNotEmpty,
    Option.isNone_eq_false_iff.mpr hSome]
  rfl

theorem run_detach_of_ok
    (h : replies (.backend (.detach volumeId nodeId)) past = .ok ()) :
    replies.run
        (within (during .backend "detach volume" volumeId
          (Host.backend (.detach volumeId nodeId))) :
          Program Host UnpublishVolume.Error Unit) past =
      (.ok (),
        ⟨.backend (.detach volumeId nodeId), .ok ()⟩ :: past) :=
  Replies.run_ask h

theorem run_detach_of_error
    {error : Backend.Error}
    (h :
      replies (.backend (.detach volumeId nodeId)) past =
        .error error) :
    replies.run
        (within (during .backend "detach volume" volumeId
          (Host.backend (.detach volumeId nodeId))) :
          Program Host UnpublishVolume.Error Unit) past =
      (.error (raise (.during "detach volume" volumeId
          (.backend error))),
        ⟨.backend (.detach volumeId nodeId), .error error⟩ ::
          past) :=
  Replies.run_ask h

theorem run_unpublishFrom_of_inUseThere
    (volumeId : String)
    (replies : Replies)
    (past : Record)
    (hInterval : settings.polling.interval.nanoseconds ≠ 0)
    (h : InUseThere nodeId (.ok disk)) :
    let run :=
      replies.run (unpublishFrom settings volumeId nodeId disk)
        past
    changes run.2 = .detach volumeId nodeId :: changes past ∧
      (run.1 = .ok () ↔
        DetachedInTime settings.polling replies volumeId nodeId
          past) := by
  rw [unpublishFrom_of_inUseThere h]
  intro run
  cases hDetach :
      replies (.backend (.detach volumeId nodeId)) past with
  | error error =>
      have hFailed := run_detach_of_error hDetach
      have hRun : run = _ := Replies.run_bind_of_error hFailed _
      rw [hRun]
      refine ⟨Host.changes_of_change rfl, iff_of_false nofun ?_⟩
      intro hDetached
      exact nomatch hDetach.symm.trans hDetached.1
  | ok accepted =>
      cases accepted
      let now : Record :=
        ⟨.backend (.detach volumeId nodeId), .ok ()⟩ :: past
      have hRun : run = replies.run _ now :=
        Replies.run_bind_of_ok (run_detach_of_ok hDetach) _
      have hNow :
          changes now = .detach volumeId nodeId :: changes past :=
        Host.changes_of_change rfl
      rcases Wait.run_untilMet_cases replies settings.polling
          volumeId "detached" isDetached now with
        ⟨k, seen, hWithin, hSight, hSeen, hWait⟩ | ⟨hUnmet, hWait⟩
      · rw [hRun,
          Replies.run_bind_of_ok (Replies.run_within_of_ok hWait)]
        refine ⟨Wait.changes_polled.trans hNow,
          iff_of_true rfl ⟨hDetach, k, seen, ?_, hSight, ?_⟩⟩
        · exact (Wait.le_polls_iff hInterval).mp hWithin
        · exact isDetached_eq_true_iff.mp hSeen
      · rw [hRun,
          Replies.run_bind_of_error
            (Replies.run_within_of_error hWait)]
        refine ⟨?_, iff_of_false nofun ?_⟩
        · rw [Host.changes_of_harmless rfl, Wait.changes_polled,
            hNow]
        · rintro ⟨_, k, seen, hInTime, hSight, hSeen⟩
          have hMet :=
            Wait.met_eq_some_iff.mpr
              ⟨hSight, isDetached_eq_true_iff.mpr hSeen⟩
          rw [hUnmet k ((Wait.le_polls_iff hInterval).mpr hInTime)]
            at hMet
          exact nomatch hMet

theorem status_inconsistent
    (detail : String) :
    (UnpublishVolume.Error.inconsistent detail).status =
      ⟨.internal, "Volume in inconsistent state: " ++ detail⟩ :=
  rfl

/- Any other volume is left alone. -/
theorem run_unpublishFrom_of_not
    (h : ¬ InUseThere nodeId (.ok disk)) :
    ∃ outcome,
      replies.run (unpublishFrom settings volumeId nodeId disk)
          past =
        (outcome, past) ∧
        Unpublishes settings.polling replies volumeId nodeId
          (.ok disk)
          ((outcome.mapError UnpublishVolume.Error.status).map
            fun _ => .unpublished) [] := by
  unfold unpublishFrom
  split
  · next hIdle => exact ⟨_, rfl, .idle hIdle⟩
  · next hInUse =>
      rw [not_not] at hInUse
      split
      · next hNowhere =>
          refine ⟨_, rfl, ?_⟩
          rw [Except.mapError, status_inconsistent]
          exact .nowhere hInUse (List.isEmpty_iff.mp hNowhere)
      · next hSome =>
          have hElsewhere :
              ∀ attachment ∈ disk.attachments,
                attachment.instanceId ≠ nodeId :=
            fun attachment hMem hHere =>
              h ⟨hInUse, attachment, hMem, hHere⟩
          split
          · refine ⟨_, rfl, .elsewhere hInUse ?_ hElsewhere⟩
            exact fun hNone => hSome (List.isEmpty_iff.mpr hNone)
          · next hHere =>
              rw [Bool.not_eq_true, Option.isNone_eq_false_iff,
                isSome_attachment?_iff] at hHere
              exact absurd ⟨hInUse, hHere⟩ h

------------------------------------------------------------
-- Messages
------------------------------------------------------------

variable {request : Csi.UnpublishVolume.Request}

/- The changes tell whether there was something to detach. -/
theorem Unpublishes.changes_ne_nil_iff
    {polling : Polling}
    {look : Except Backend.Error Disk}
    {answer : Except Rpc.Status Answer}
    {calls : List Backend.Call}
    (h :
      Unpublishes polling replies volumeId nodeId look answer
        calls) :
    calls ≠ [] ↔ InUseThere nodeId look := by
  cases h with
  | gone _ => exact iff_of_false (not_not_intro rfl) id
  | unread _ => exact iff_of_false (not_not_intro rfl) id
  | idle hIdle =>
      exact iff_of_false (not_not_intro rfl)
        fun hThere => hIdle hThere.1
  | nowhere _ hNone =>
      apply iff_of_false (not_not_intro rfl)
      rintro ⟨_, attachment, hMem, _⟩
      rw [hNone] at hMem
      exact nomatch hMem
  | elsewhere _ _ hElsewhere =>
      apply iff_of_false (not_not_intro rfl)
      rintro ⟨_, attachment, hMem, hHere⟩
      exact hElsewhere attachment hMem hHere
  | detached hThere _ =>
      exact iff_of_true (List.cons_ne_nil _ _) hThere

theorem answer_eq_unpublished_iff
    {outcome : Except UnpublishVolume.Error Unit} :
    ((outcome.mapError UnpublishVolume.Error.status).map fun _ =>
        Answer.unpublished) = .ok .unpublished ↔
      outcome = .ok () := by
  cases outcome with
  | error e => exact iff_of_false nofun nofun
  | ok _ => exact iff_of_true rfl rfl

/- What a request leads to, by the first look at the volume. -/
theorem run_unpublish_unpublishes
    (replies : Replies)
    (request : Csi.UnpublishVolume.Request)
    (hInterval : settings.polling.interval.nanoseconds ≠ 0) :
    let run := replies.run (unpublish settings request) []
    ∃ look,
      (looks request.volumeId run.2).getLast? = some look ∧
        Unpublishes settings.polling replies request.volumeId
          request.nodeId look
          ((run.1.mapError UnpublishVolume.Error.status).map
            fun _ => .unpublished)
          (changes run.2) := by
  intro run
  let first (look : Except Backend.Error Disk) : Record :=
    [⟨.backend (.get request.volumeId), look⟩]
  cases hGet : replies (.backend (.get request.volumeId)) [] with
  | error error =>
      have hRun :
          run =
            replies.run
              (if error.isNotFound then .done ()
              else
                .failed (raise (.during "get volume"
                  request.volumeId (.backend error))))
              (first (.error error)) :=
        Replies.run_ask hGet
      rw [hRun]
      split
      · next hGone =>
          exact ⟨_, Host.getLast?_looks rfl (List.suffix_refl _),
            .gone hGone⟩
      · next hUnread =>
          rw [Bool.not_eq_true] at hUnread
          exact ⟨_, Host.getLast?_looks rfl (List.suffix_refl _),
            .unread hUnread⟩
  | ok disk =>
      have hRun :
          run =
            replies.run
              (unpublishFrom settings request.volumeId
                request.nodeId disk)
              (first (.ok disk)) :=
        Replies.run_ask hGet
      rw [hRun]
      refine ⟨.ok disk,
        Host.getLast?_looks rfl (replies.suffix_run _ _), ?_⟩
      by_cases hThere : InUseThere request.nodeId (.ok disk)
      · have hDetach :=
          run_unpublishFrom_of_inUseThere request.volumeId replies
            (first (.ok disk)) hInterval hThere
        have hChanges :
            changes
                (replies.run
                  (unpublishFrom settings request.volumeId
                    request.nodeId disk)
                  (first (.ok disk))).2 =
              [.detach request.volumeId request.nodeId] :=
          hDetach.1
        rw [hChanges]
        exact .detached hThere
          (answer_eq_unpublished_iff.trans hDetach.2)
      · rcases run_unpublishFrom_of_not hThere with
          ⟨outcome, hOutcome, hUnpublishes⟩
        rw [hOutcome]
        exact hUnpublishes

/-
  A request that is not refused looks at the volume. It asks
  for a change exactly when the volume is seen in use on the
  node, namely once for its detachment from there, and ends by
  what was seen.
-/
theorem unpublish_detaches_seen
    (settings : Settings)
    (request : Csi.UnpublishVolume.Request)
    (replies : Replies)
    (hInterval : settings.polling.interval.nanoseconds ≠ 0) :
    let run :=
      replies.run
        ((provisioner settings).serve (.unpublish request)) []
    (∃ refusal,
      request.check = .error refusal ∧
        run = (.error refusal, [])) ∨
      ∃ look,
        (looks request.volumeId run.2).getLast? = some look ∧
          (changes run.2 ≠ [] ↔ InUseThere request.nodeId look) ∧
          Unpublishes settings.polling replies request.volumeId
            request.nodeId look run.1 (changes run.2) := by
  intro run
  cases hCheck : request.check with
  | error refusal =>
      exact .inl ⟨refusal, rfl, Replies.run_procedure_refused hCheck⟩
  | ok checked =>
      have hSame := Csi.UnpublishVolume.Request.eq_of_check hCheck
      subst hSame
      have hRun : run = _ := Replies.run_procedure hCheck
      rcases run_unpublish_unpublishes replies checked hInterval
        with ⟨look, hLook, hUnpublishes⟩
      right
      rw [hRun]
      exact ⟨look, hLook, hUnpublishes.changes_ne_nil_iff,
        hUnpublishes⟩

/-
  A volume that stays on its node for two more polls, of which
  the first one fails.
-/
def slowReplies : Replies
  | .backend (.get id), past =>
      let disk (status : Disk.Status) : Disk :=
        ⟨id, "pvc-1", 10, status, "cloud_ssd", "zone-a",
          [⟨"node-a", "/dev/vdb"⟩], 0, []⟩
      match past.length with
      | 0 => .ok (disk .inUse)
      | 2 => .error (.failed "connection reset")
      | 4 => .ok (disk .detaching)
      | _ => .ok (disk .available)
  | .backend (.detach _ _), _ => .ok ()
  | request, _ => (Memory.World.answer request {}).1

theorem unpublish_detaches_seen_slowly :
    let request : Csi.UnpublishVolume.Request :=
      { volumeId := "vol-1", nodeId := "node-a" }
    let run :=
      slowReplies.run
        ((provisioner {}).serve (.unpublish request)) []
    ({} : Settings).polling.interval.nanoseconds ≠ 0 ∧
      run.1 = .ok .unpublished ∧
      ∃ look,
        (looks "vol-1" run.2).getLast? = some look ∧
          (changes run.2 ≠ [] ↔ InUseThere "node-a" look) ∧
          Unpublishes ({} : Settings).polling slowReplies "vol-1"
            "node-a" look run.1 (changes run.2) := by
  intro request run
  have hInterval :
      ({} : Settings).polling.interval.nanoseconds ≠ 0 := by
    decide
  refine ⟨hInterval, rfl, ?_⟩
  rcases unpublish_detaches_seen {} request slowReplies hInterval
    with ⟨refusal, hRefused, _⟩ | hUnpublishes
  · exact nomatch hRefused
  · exact hUnpublishes

end Attaching

end Service

end BlockVolumes
