import BlockVolumes.Memory.World
import BlockVolumes.Proofs.Attaching.Publication

/-
  Publishing a volume again on the node that it is attached to.
  Where no call fails and the node has room, the call changes
  nothing. It goes well if the volume is in use or about to be
  attached there; if it is being extended, the call waits for
  the volume to become available, which an attached volume does
  not, and fails when the time is over.

  Key definitions include:
    * `Service.Attaching.Unhindered`
    * `Service.Attaching.HoldsOnward`
    * `Service.Attaching.AttachedHere`

  Key theorems include:
    * `Service.Attaching.run_underway_of_holds`
    * `Service.Attaching.run_toAttach_of_holds`
    * `Service.Attaching.republish_answers`
-/

namespace BlockVolumes

namespace Service

namespace Attaching

open Csi (PublishVolume.Error)
open Host (Exchange Record Replies changes looks)

------------------------------------------------------------
-- Favourable Records
------------------------------------------------------------

/- Whether a reply shows a volume in use on a node. -/
def Holds
    (nodeId : String)
    (reply : Except Backend.Error Disk) : Prop :=
  ∃ disk,
    reply = .ok disk ∧ disk.status = .inUse ∧
      (disk.attachment? nodeId).isSome = true

/-
  Whether nothing on record hinders a volume from being on a
  node: no call has failed, and the limits leave room for it.
-/
structure Unhindered
    (volumeId nodeId : String)
    (past : Record) : Prop where
  unfailed : ∀ exchange ∈ past, exchange.failed = false
  room :
    ∀ (diskType : String) (limits : Limits),
      ⟨.backend (.checkAttach nodeId diskType),
          .ok limits.check⟩ ∈ past →
        ⟨.backend (.attachedVolumes nodeId),
            .ok limits.attached⟩ ∈ past →
          limits.Admit volumeId

/-
  Whether all looks at a volume that were added to a record
  show it in use on a node.
-/
def HoldsOnward
    (volumeId nodeId : String)
    (past now : Record) : Prop :=
  ∀ added : Record,
    now = added ++ past →
      ∀ reply,
        ⟨.backend (.get volumeId), reply⟩ ∈ added →
          Holds nodeId reply

variable {settings : Settings}
variable {volumeId nodeId : String}
variable {disk : Disk}
variable {replies : Replies}
variable {past now : Record}

theorem HoldsOnward.of_later
    (h : HoldsOnward volumeId nodeId past now)
    (between : Record) :
    HoldsOnward volumeId nodeId (between ++ past) now := by
  intro added hNow reply hMem
  rw [← List.append_assoc] at hNow
  exact h _ hNow reply (List.mem_append_left between hMem)

theorem HoldsOnward.of_earlier
    {earlier : Record}
    (h : HoldsOnward volumeId nodeId past now)
    (hEarlier : earlier <:+ now) :
    HoldsOnward volumeId nodeId past earlier := by
  rcases hEarlier with ⟨later, rfl⟩
  intro added hAdded reply hMem
  rw [hAdded, ← List.append_assoc] at h
  exact h _ rfl reply (List.mem_append_right later hMem)

/- Each poll of a wait is such a look. -/
theorem HoldsOnward.holds_sight
    {interval j k : Nat}
    (h : HoldsOnward volumeId nodeId past now)
    (hNow :
      Wait.polled replies volumeId interval past k <:+ now)
    (hj : j ≤ k) :
    Holds nodeId
      (Wait.sight replies volumeId interval past j) := by
  rcases Wait.polled_eq_append replies volumeId interval past k
    with ⟨added, hAdded, _, hPolls⟩
  exact h.of_earlier hNow added hAdded _ (hPolls j hj)

/- The looks after the first one are what is added after it. -/
theorem holdsOnward_of_looks
    {first : Except Backend.Error Disk}
    {later : List (Except Backend.Error Disk)}
    (hLooks : looks volumeId now = later ++ [first])
    (hLater : ∀ look ∈ later, Holds nodeId look) :
    HoldsOnward volumeId nodeId
      [⟨.backend (.get volumeId), first⟩] now := by
  intro added hNow reply hMem
  rw [hNow, Host.looks_append, Host.looks_get,
    Host.looks_nil] at hLooks
  apply hLater
  rw [← List.append_cancel_right hLooks]
  exact Host.mem_looks_iff.mpr hMem

------------------------------------------------------------
-- Waiting for What the Volume Shows
------------------------------------------------------------

/- A volume that is in use on the node is not waited for long. -/
theorem run_awaitAttachment_of_holds
    (h :
      HoldsOnward volumeId nodeId past
        (replies.run (awaitAttachment settings volumeId nodeId)
          past).2) :
    ∃ k seen attachment,
      Wait.sight replies volumeId settings.polling.interval.pause
          past k =
        .ok seen ∧
        seen.status = .inUse ∧
        seen.attachment? nodeId = some attachment ∧
        replies.run (awaitAttachment settings volumeId nodeId)
            past =
          (.ok (describe attachment),
            Wait.polled replies volumeId
              settings.polling.interval.pause past k) := by
  rcases Wait.run_forStatus_cases replies settings.polling volumeId
      .inUse past with
    ⟨k, seen, _, hSight, hInUse, hWait⟩ | ⟨hUnmet, hWait⟩
  · unfold awaitAttachment at h ⊢
    rw [Program.bind_eq,
      Replies.run_bind_of_ok (Replies.run_within_of_ok hWait)]
      at h ⊢
    rcases h.holds_sight (replies.suffix_run _ _) (Nat.le_refl k)
      with ⟨held, hHeld, _, hHere⟩
    rw [hSight] at hHeld
    cases hHeld
    rcases Option.isSome_iff_exists.mp hHere with
      ⟨attachment, hAttachment⟩
    refine ⟨k, seen, attachment, hSight, hInUse, hAttachment, ?_⟩
    rw [hAttachment]
    rfl
  · unfold awaitAttachment at h
    rw [Program.bind_eq,
      Replies.run_bind_of_error (Replies.run_within_of_error hWait)]
      at h
    rcases h.holds_sight (List.suffix_cons _ _) (Nat.zero_le _)
      with ⟨held, hHeld, hInUse, _⟩
    exact absurd hInUse (hUnmet 0 (Nat.zero_le _) held hHeld)

/-
  A volume that is in use on the node does not become available
  as long as it is waited for.
-/
theorem run_attach_of_holds
    (hStatus : disk.status ≠ .available)
    (h :
      HoldsOnward volumeId nodeId past
        (replies.run (attach settings volumeId nodeId disk)
          past).2) :
    replies.run (attach settings volumeId nodeId disk) past =
      (.error (.timeout volumeId Disk.Status.available.name
          settings.polling.timeout),
        ⟨.sleep (Wait.rest settings.polling), ()⟩ ::
          Wait.polled replies volumeId
            settings.polling.interval.pause past
            (Wait.polls settings.polling)) := by
  unfold attach at h ⊢
  rw [if_neg hStatus, Program.bind_eq] at h ⊢
  rcases Wait.run_forStatus_cases replies settings.polling volumeId
      .available past with
    ⟨k, seen, _, hSight, hAvailable, hWait⟩ | ⟨_, hWait⟩
  · rw [Replies.run_bind_of_ok hWait] at h
    rcases h.holds_sight (replies.suffix_run _ _) (Nat.le_refl k)
      with ⟨held, hHeld, hInUse, _⟩
    rw [hSight] at hHeld
    cases hHeld
    rw [hAvailable] at hInUse
    exact nomatch hInUse
  · exact Replies.run_bind_of_error hWait _

------------------------------------------------------------
-- Going On After the First Look
------------------------------------------------------------

/- Where no call fails, the limits of a node are told. -/
theorem run_getLimits_of_unfailed
    {α : Type}
    {diskType : String}
    {next : Limits → Program Host PublishVolume.Error α}
    (h :
      ∀ exchange ∈
          (replies.run ((getLimits nodeId diskType).bind next)
            past).2,
        exchange.failed = false) :
    ∃ limits : Limits,
      replies.run (getLimits nodeId diskType) past =
        (.ok limits, told nodeId diskType limits ++ past) := by
  rcases Replies.ok_of_unfailed h with ⟨check, hCheck⟩
  have hFirst :
      replies.run ((getLimits nodeId diskType).bind next) past = _ :=
    Replies.run_ask hCheck
  rw [hFirst] at h
  rcases Replies.ok_of_unfailed h with ⟨attached, hAttached⟩
  refine ⟨⟨check, attached⟩, ?_⟩
  exact (Replies.run_ask hCheck).trans (Replies.run_ask hAttached)

/- The node has room, and so the call goes on. -/
theorem run_admitted_of_unhindered
    {α : Type}
    {rest : Program Host PublishVolume.Error α}
    (h :
      Unhindered volumeId nodeId
        (replies.run
          ((getLimits nodeId disk.diskType).bind fun limits =>
            (Program.ofExcept
              (checkLimits nodeId disk volumeId limits)).bind
                fun _ => rest) past).2) :
    ∃ limits : Limits,
      replies.run
          ((getLimits nodeId disk.diskType).bind fun limits =>
            (Program.ofExcept
              (checkLimits nodeId disk volumeId limits)).bind
                fun _ => rest) past =
        replies.run rest
          (told nodeId disk.diskType limits ++ past) := by
  rcases run_getLimits_of_unfailed h.unfailed with ⟨limits, hLimits⟩
  rw [Replies.run_bind_of_ok hLimits] at h
  have hAdmit : limits.Admit volumeId := by
    apply h.room disk.diskType limits
    · exact (replies.suffix_run _ _).subset (by simp [told])
    · exact (replies.suffix_run _ _).subset (by simp [told])
  refine ⟨limits, ?_⟩
  rw [Replies.run_bind_of_ok hLimits,
    checkLimits_eq_ok_iff.mpr hAdmit]
  rfl

variable {request : Csi.PublishVolume.Request}
variable {later : List (Except Backend.Error Disk)}

/- A call that has looked at a volume goes on with what it saw. -/
theorem run_publish_of_looks
    (hLooks :
      looks request.volumeId
          (replies.run (publish settings request) []).2 =
        later ++ [.ok disk]) :
    replies.run (publish settings request) [] =
      replies.run
        (proceed settings request.volumeId request.nodeId disk
          (assess disk request.nodeId))
        [⟨.backend (.get request.volumeId), .ok disk⟩] := by
  -- The first look is the last entry, and no later request can
  -- take its place.
  have hFirst := congrArg List.getLast? hLooks
  rw [List.getLast?_concat] at hFirst
  rcases publish_cases settings request with
    ⟨error, hPublish⟩ | hPublish
  · rw [hPublish] at hFirst
    exact nomatch hFirst
  · rw [hPublish] at hFirst ⊢
    cases hGet : replies (.backend (.get request.volumeId)) [] with
    | error error =>
        rcases run_getVolume_of_error
            PublishVolume.Error.volumeMissing hGet with
          ⟨e, hGone⟩
        rw [Replies.run_bind_of_error hGone, Host.looks_get]
          at hFirst
        exact nomatch hFirst
    | ok seen =>
        have hSeen := run_getVolume_of_ok
          PublishVolume.Error.volumeMissing hGet
        rw [Replies.run_bind_of_ok hSeen] at hFirst ⊢
        rw [Host.getLast?_looks rfl (replies.suffix_run _ _)] at hFirst
        cases hFirst
        rfl

------------------------------------------------------------
-- What the First Look Leads To
------------------------------------------------------------

variable {attachment : Disk.Attachment}

theorem assess_of_inUse
    (hHere : disk.attachment? nodeId = some attachment)
    (hStatus : disk.status = .inUse) :
    assess disk nodeId = .published attachment := by
  simp [assess, hHere, hStatus]

theorem assess_of_attaching
    (hHere : disk.attachment? nodeId = some attachment)
    (hStatus : disk.status = .attaching) :
    assess disk nodeId = .underway := by
  simp [assess, hHere, hStatus]

theorem assess_of_extending
    (hHere : disk.attachment? nodeId = some attachment)
    (hStatus : disk.status = .extending) :
    assess disk nodeId = .toAttach := by
  simp [assess, hHere, hStatus]

/- A volume on its way to the node is waited for. -/
theorem run_underway_of_holds
    (hUnhindered :
      Unhindered volumeId nodeId
        (replies.run
          (proceed settings volumeId nodeId disk .underway)
          past).2)
    (hHolds :
      HoldsOnward volumeId nodeId past
        (replies.run
          (proceed settings volumeId nodeId disk .underway)
          past).2) :
    let run :=
      replies.run (proceed settings volumeId nodeId disk .underway)
        past
    changes run.2 = changes past ∧
      ∃ attachment,
        run.1 = .ok (describe attachment) ∧
          InUseOn volumeId nodeId attachment run.2 := by
  intro run
  rcases run_admitted_of_unhindered hUnhindered with
    ⟨limits, hAdmitted⟩
  change run = _ at hAdmitted
  change HoldsOnward _ _ _ run.2 at hHolds
  rw [hAdmitted] at hHolds
  rcases run_awaitAttachment_of_holds
      (hHolds.of_later _) with
    ⟨k, seen, attachment, hSight, hInUse, hAttachment, hAwait⟩
  rw [hAwait] at hAdmitted
  rw [hAdmitted]
  refine ⟨?_, attachment, rfl, seen, ?_, hInUse, hAttachment⟩
  · rw [Wait.changes_polled, changes_told]
  · rw [Wait.polled, hSight, Host.looks_get]
    rfl

/- One that does not become available is waited for in vain. -/
theorem run_toAttach_of_holds
    (hStatus : disk.status ≠ .available)
    (hUnhindered :
      Unhindered volumeId nodeId
        (replies.run
          (proceed settings volumeId nodeId disk .toAttach)
          past).2)
    (hHolds :
      HoldsOnward volumeId nodeId past
        (replies.run
          (proceed settings volumeId nodeId disk .toAttach)
          past).2) :
    let run :=
      replies.run (proceed settings volumeId nodeId disk .toAttach)
        past
    changes run.2 = changes past ∧
      run.1 =
        .error (raise (.timeout volumeId
          Disk.Status.available.name
          settings.polling.timeout)) := by
  intro run
  rcases run_admitted_of_unhindered hUnhindered with
    ⟨limits, hAdmitted⟩
  change run = _ at hAdmitted
  change HoldsOnward _ _ _ run.2 at hHolds
  rw [hAdmitted] at hHolds
  have hAttach :=
    (hHolds.of_earlier (replies.suffix_run_bind _ _ _)).of_later
      (told nodeId disk.diskType limits)
  rw [within, Replies.run_mapError] at hAttach
  have hRun := hAdmitted.trans
    (Replies.run_bind_of_error
      (Replies.run_within_of_error
        (run_attach_of_holds hStatus hAttach)) _)
  rw [hRun]
  refine ⟨?_, rfl⟩
  rw [Host.changes_of_harmless rfl, Wait.changes_polled,
    changes_told]

------------------------------------------------------------
-- Publishing Again
------------------------------------------------------------

/-
  A volume with an attachment to the node that is in use there
  whenever it is looked at again.
-/
structure AttachedHere
    (volumeId nodeId : String)
    (disk : Disk)
    (past : Record) : Prop where
  here : (disk.attachment? nodeId).isSome = true
  status :
    disk.status = .inUse ∨ disk.status = .attaching ∨
      disk.status = .extending
  onward :
    ∃ later,
      looks volumeId past = later ++ [.ok disk] ∧
        ∀ look ∈ later, Holds nodeId look

/-
  How a call ends for such a volume: it changes nothing, and
  if the volume was not being extended, the answer tells where
  it is found on the node. Else the call waits for it to
  become available until the time is over.
-/
structure Republished
    (settings : Settings)
    (volumeId nodeId : String)
    (disk : Disk)
    (result : Except PublishVolume.Error Dictionary)
    (past : Record) : Prop where
  unchanged : changes past = []
  settled :
    disk.status ≠ .extending →
      ∃ attachment,
        result = .ok (describe attachment) ∧
          InUseOn volumeId nodeId attachment past
  extended :
    disk.status = .extending →
      result =
        .error (raise (.timeout volumeId
          Disk.Status.available.name
          settings.polling.timeout))

theorem republish_ends
    (hUnhindered :
      Unhindered request.volumeId request.nodeId
        (replies.run (publish settings request) []).2)
    (hAttached :
      AttachedHere request.volumeId request.nodeId disk
        (replies.run (publish settings request) []).2) :
    Republished settings request.volumeId request.nodeId disk
      (replies.run (publish settings request) []).1
      (replies.run (publish settings request) []).2 := by
  rcases hAttached with ⟨hHere, hStatus, later, hLooks, hLater⟩
  rcases Option.isSome_iff_exists.mp hHere with
    ⟨attachment, hAttachment⟩
  have hHolds := holdsOnward_of_looks hLooks hLater
  rw [run_publish_of_looks hLooks] at hUnhindered hHolds ⊢
  rcases hStatus with hInUse | hAttaching | hExtending
  · rw [assess_of_inUse hAttachment hInUse]
    refine ⟨rfl, fun _ => ⟨attachment, rfl, disk, ?_, hInUse,
      hAttachment⟩, fun hExtending => ?_⟩
    · change (looks _ [_]).head? = _
      rw [Host.looks_get]
      rfl
    · rw [hInUse] at hExtending
      exact nomatch hExtending
  · rw [assess_of_attaching hAttachment hAttaching] at *
    have hEnd := run_underway_of_holds hUnhindered hHolds
    refine ⟨hEnd.1, fun _ => hEnd.2, fun hExtending => ?_⟩
    rw [hAttaching] at hExtending
    exact nomatch hExtending
  · rw [assess_of_extending hAttachment hExtending] at *
    have hStatus : disk.status ≠ .available := by
      rw [hExtending]
      exact nofun
    have hEnd := run_toAttach_of_holds hStatus hUnhindered hHolds
    exact ⟨hEnd.1, fun hSettled => absurd hExtending hSettled,
      fun _ => hEnd.2⟩

/-
  Publishing a volume again changes nothing, and goes well
  unless the volume is being extended when it is looked at
  first: then the call fails as soon as the time is over.
-/
theorem republish_answers
    {disk : Disk}
    (settings : Settings)
    (message : Csi.PublishVolume.Message)
    (replies : Replies)
    (hUnhindered :
      Unhindered message.volumeId message.nodeId
        (replies.run
          ((provisioner settings).serve (.publish message)) []).2)
    (hAttached :
      AttachedHere message.volumeId message.nodeId disk
        (replies.run
          ((provisioner settings).serve (.publish message)) []).2) :
    let run :=
      replies.run ((provisioner settings).serve (.publish message))
        []
    changes run.2 = [] ∧
      (disk.status ≠ .extending →
        ∃ attachment,
          run.1 = .ok (.published (describe attachment)) ∧
            InUseOn message.volumeId message.nodeId attachment
              run.2) ∧
      (disk.status = .extending →
        run.1 =
          .error (Error.status (.timeout message.volumeId
            Disk.Status.available.name
            settings.polling.timeout))) := by
  intro run
  cases hRead : Csi.PublishVolume.Request.ofMessage message with
  | error refusal =>
      have hRun :=
        run_serve_publish_refused settings replies [] hRead
      rcases hAttached.onward with ⟨later, hLooks, _⟩
      rw [hRun] at hLooks
      simp at hLooks
  | ok request =>
      have hRun := run_serve_publish settings replies [] hRead
      have hIds := Csi.PublishVolume.Request.ids_of_ofMessage hRead
      rw [hRun, ← hIds.1, ← hIds.2] at hUnhindered hAttached
      have hEnds := republish_ends hUnhindered hAttached
      change run = _ at hRun
      rw [hRun, ← hIds.1, ← hIds.2]
      refine ⟨hEnds.unchanged, fun hSettled => ?_,
        fun hExtending => ?_⟩
      · rcases hEnds.settled hSettled with
          ⟨attachment, hResult, hInUse⟩
        refine ⟨attachment, ?_, hInUse⟩
        rw [hResult]
        rfl
      · rw [hEnds.extended hExtending]
        rfl

------------------------------------------------------------
-- One Volume on One Node
------------------------------------------------------------

/- A volume with a single attachment. -/
def soleDisk
    (status : Disk.Status) : Disk :=
  ⟨"vol-1", "pvc-1", 10, status, "cloud_ssd", "zone-a",
    [⟨"node-a", "/dev/vdb"⟩], 0, []⟩

def soleWorld
    (status : Disk.Status) : Memory.World :=
  { backend :=
      { disks := [soleDisk status]
        instances :=
          [⟨"node-a", ⟨"", "", "", ["cloud_ssd"], 4⟩,
            ["vol-1"]⟩] } }

/- The volume has a status at first, and is in use later. -/
def soleReplies
    (first : Disk.Status) : Replies :=
  fun request past =>
    (Memory.World.answer request
      (soleWorld (if past.isEmpty then first else .inUse))).1

def soleMessage : Csi.PublishVolume.Message :=
  { volumeId := "vol-1"
    nodeId := "node-a"
    capability := some ⟨some 1, some (.mount "" [])⟩ }

def soleLimits : Limits :=
  ⟨⟨true, 4⟩, ["vol-1"]⟩

/- Whether an exchange tells no other limits of a node. -/
def agrees : Exchange → Bool
  | ⟨.backend (.checkAttach _ _), .ok check⟩ =>
      check = soleLimits.check
  | ⟨.backend (.attachedVolumes _), .ok attached⟩ =>
      attached = soleLimits.attached
  | _ => true

/- The node has room, as the volume is on it already. -/
theorem unhindered_sole
    {past : Record}
    (hUnfailed : ∀ exchange ∈ past, exchange.failed = false)
    (hAgrees : ∀ exchange ∈ past, agrees exchange = true) :
    Unhindered "vol-1" "node-a" past := by
  refine ⟨hUnfailed, fun diskType limits hCheck hAttached => ?_⟩
  have hSole : limits.check = soleLimits.check :=
    of_decide_eq_true (hAgrees _ hCheck)
  have hListed : limits.attached = soleLimits.attached :=
    of_decide_eq_true (hAgrees _ hAttached)
  constructor
  · rw [hSole]
    rfl
  · left
    rw [hListed]
    exact List.mem_singleton_self _

/- The volume is on its way to the node, and then in use there. -/
theorem republish_answers_attaching :
    let run :=
      (soleReplies .attaching).run
        ((provisioner {}).serve (.publish soleMessage)) []
    Unhindered "vol-1" "node-a" run.2 ∧
      AttachedHere "vol-1" "node-a" (soleDisk .attaching) run.2 ∧
      changes run.2 = [] ∧
      ∃ attachment,
        run.1 = .ok (.published (describe attachment)) ∧
          InUseOn "vol-1" "node-a" attachment run.2 := by
  intro run
  have hUnhindered : Unhindered "vol-1" "node-a" run.2 :=
    unhindered_sole (by decide) (by decide)
  have hAttached :
      AttachedHere "vol-1" "node-a" (soleDisk .attaching)
        run.2 := by
    refine ⟨rfl, .inr (.inl rfl), [.ok (soleDisk .inUse)], rfl, ?_⟩
    rw [List.forall_mem_singleton]
    exact ⟨soleDisk .inUse, rfl, rfl, rfl⟩
  have hEnds :=
    republish_answers {} soleMessage (soleReplies .attaching)
      hUnhindered hAttached
  exact ⟨hUnhindered, hAttached, hEnds.1, hEnds.2.1 nofun⟩

/-
  The same volume that is being extended at first: it is in
  use on the node at all later looks, and the call fails.
-/
theorem republish_extending_fails :
    let settings : Settings :=
      { polling := ⟨.seconds 1, .seconds 2⟩ }
    let run :=
      (soleReplies .extending).run
        ((provisioner settings).serve (.publish soleMessage)) []
    Unhindered "vol-1" "node-a" run.2 ∧
      AttachedHere "vol-1" "node-a" (soleDisk .extending) run.2 ∧
      run.1 =
        .error (Error.status
          (.timeout "vol-1" "available" (.seconds 2))) := by
  intro settings run
  refine ⟨unhindered_sole (by decide) (by decide), ?_, by decide⟩
  refine ⟨rfl, .inr (.inr rfl),
    List.replicate 3 (.ok (soleDisk .inUse)), by decide, ?_⟩
  intro look hLook
  rw [List.eq_of_mem_replicate hLook]
  exact ⟨soleDisk .inUse, rfl, rfl, rfl⟩

end Attaching

end Service

end BlockVolumes
