import BlockVolumes.Proofs.Csi.Reading
import BlockVolumes.Proofs.Waiting.Polls
import BlockVolumes.Service.Provisioner

/-
  Publishing a volume on a node, in whatever way the backend
  replies. The volume is attached at most once, after the node
  was found to have room for it, and a call goes well only with
  a look at the volume in use on the node.

  Key definitions include:
    * `Service.Attaching.Limits.Admit`
    * `Service.Attaching.Admitted`
    * `Service.Attaching.AttachesOnce`
    * `Service.Attaching.InUseOn`
    * `Service.Attaching.proceed`

  Key theorems include:
    * `Service.Attaching.checkLimits_eq_ok_iff`
    * `Service.Attaching.publish_observed`
    * `Service.Attaching.publish_attaches_checked`
-/

namespace BlockVolumes

namespace Service

namespace Attaching

open Csi (PublishVolume.Error)
open Host (Exchange Observes Record Replies changes looks)

------------------------------------------------------------
-- Room on a Node
------------------------------------------------------------

/-
  Whether limits leave room for a volume. A volume that is
  counted already takes no more room.
-/
structure Limits.Admit
    (limits : Limits)
    (volumeId : String) : Prop where
  supported : limits.check.supported = true
  room :
    volumeId ∈ limits.attached ∨
      limits.attached.length < limits.check.volumeLimit

/-
  Whether the backend has said that a node has room for a
  volume of the type that the volume was seen to be of.
-/
def Admitted
    (volumeId nodeId : String)
    (past : Record) : Prop :=
  ∃ (disk : Disk) (limits : Limits),
    ⟨.backend (.get volumeId), .ok disk⟩ ∈ past ∧
      ⟨.backend (.checkAttach nodeId disk.diskType),
        .ok limits.check⟩ ∈ past ∧
      ⟨.backend (.attachedVolumes nodeId),
        .ok limits.attached⟩ ∈ past ∧
      limits.Admit volumeId

variable {settings : Settings}
variable {volumeId nodeId : String}
variable {disk : Disk}
variable {limits : Limits}
variable {past now : Record}

theorem checkLimits_eq_ok_iff :
    checkLimits nodeId disk volumeId limits = .ok () ↔
      limits.Admit volumeId := by
  unfold checkLimits
  split
  · next hUnsupported =>
      apply iff_of_false nofun
      intro hAdmit
      simp [hAdmit.supported] at hUnsupported
  · next hSupported =>
      rw [Bool.not_eq_true, Bool.not_eq_false'] at hSupported
      split
      · next hFull =>
          apply iff_of_false nofun
          intro hAdmit
          rcases hAdmit.room with hCounted | hRoom
          · simp [hCounted] at hFull
          · omega
      · next hRoom =>
          apply iff_of_true rfl
          refine ⟨hSupported, ?_⟩
          by_cases hCounted : volumeId ∈ limits.attached
          · exact .inl hCounted
          · right
            simpa [hCounted] using hRoom

/- What was said stays on record. -/
theorem Admitted.mono
    (h : Admitted volumeId nodeId past)
    (hMore : past ⊆ now) :
    Admitted volumeId nodeId now := by
  rcases h with ⟨disk, limits, hGet, hCheck, hAttached, hAdmit⟩
  exact ⟨disk, limits, hMore hGet, hMore hCheck, hMore hAttached,
    hAdmit⟩

------------------------------------------------------------
-- Attaching Once
------------------------------------------------------------

/-
  Whether a request attaches nothing, or attaches a volume to
  the node for the first time and where there is room for it.
-/
def AttachesOnce
    (volumeId nodeId : String)
    (request : Host.Request)
    (past : Record) : Prop :=
  ∀ id instanceId,
    request = .backend (.attach id instanceId) →
      id = volumeId ∧ instanceId = nodeId ∧
        (∀ other otherId, .attach other otherId ∉ changes past) ∧
        Admitted volumeId nodeId past

/-
  Whether the last reply to a request for a volume shows it in
  use on a node, with the given first attachment to it.
-/
def InUseOn
    (volumeId nodeId : String)
    (attachment : Disk.Attachment)
    (past : Record) : Prop :=
  ∃ disk,
    (looks volumeId past).head? = some (.ok disk) ∧
      disk.status = .inUse ∧
      disk.attachment? nodeId = some attachment

/- Whether an answer tells an attachment that was observed. -/
def Observed
    (volumeId nodeId : String)
    (answer : Dictionary)
    (past : Record) : Prop :=
  ∃ attachment,
    answer = describe attachment ∧
      InUseOn volumeId nodeId attachment past

/- A request of another kind attaches nothing. -/
theorem attachesOnce_of_other
    {request : Host.Request}
    (h :
      ∀ id instanceId,
        request ≠ .backend (.attach id instanceId)) :
    AttachesOnce volumeId nodeId request past :=
  fun id instanceId hAttach => absurd hAttach (h id instanceId)

theorem attachesOnce_attach
    (hQuiet : changes past = [])
    (hAdmitted : Admitted volumeId nodeId past) :
    AttachesOnce volumeId nodeId
      (.backend (.attach volumeId nodeId)) past := by
  rintro id instanceId ⟨⟩
  refine ⟨rfl, rfl, fun other otherId => ?_, hAdmitted⟩
  rw [hQuiet]
  exact List.not_mem_nil

/-
  Whether a program attaches a volume at most once, and its
  result agrees with the record at its end.
-/
abbrev Attaches
    {ε α : Type}
    (volumeId nodeId : String)
    (middle : α → Record → Prop)
    (program : Program Host ε α)
    (past : Record) : Prop :=
  Observes (AttachesOnce volumeId nodeId) middle program past

theorem forStatus_attaches
    (polling : Polling)
    (status : Disk.Status)
    (past : Record) :
    Attaches volumeId nodeId
      (fun disk now =>
        disk.status = status ∧
          ∃ between : Record,
            now =
                ⟨.backend (.get volumeId), .ok disk⟩ ::
                  (between ++ past) ∧
              ∀ exchange ∈ between, exchange.Waits volumeId)
      (Wait.forStatus polling volumeId status) past := by
  refine (Wait.untilMet_waits
    (fun _ => attachesOnce_of_other nofun)
    (fun _ _ => attachesOnce_of_other nofun)
    polling status.name _ past).mono fun disk now h => ?_
  exact ⟨beq_iff_eq.mp h.1, h.2⟩

/- Once there is room, nothing but the one request attaches. -/
theorem attach_attaches
    (hQuiet : changes past = [])
    (hAdmitted : Admitted volumeId nodeId past) :
    Attaches volumeId nodeId (fun _ _ => True)
      (attach settings volumeId nodeId disk) past := by
  have hAttach :
      ∀ (ready : Disk) {now : Record},
        changes now = [] → Admitted volumeId nodeId now →
          Attaches volumeId nodeId (fun _ _ => True)
            (if ready.status.permits .attach then do
              during .backend "attach volume" volumeId
                (Host.backend (.attach volumeId nodeId))
              Host.sleep settings.attachSettle
            else
              throw (.refused volumeId ready.status .attach))
            now := by
    intro ready now hQuiet hAdmitted
    split
    · refine (Observes.mapError (Observes.backend
        (attachesOnce_attach hQuiet hAdmitted))).bind
          fun _ now _ => ?_
      exact Observes.ask_iff.mpr
        ⟨attachesOnce_of_other nofun, fun _ =>
          Observes.done_iff.mpr trivial⟩
    · exact Observes.failed
  unfold attach
  split
  · exact hAttach disk hQuiet hAdmitted
  · refine (forStatus_attaches _ _ past).bind fun ready now h => ?_
    rcases h with ⟨_, between, rfl, hWaits⟩
    apply hAttach ready
    · rw [Host.changes_of_harmless rfl,
        Host.changes_of_waits hWaits, hQuiet]
    · apply hAdmitted.mono
      exact List.subset_cons_of_subset _
        (List.subset_append_right between past)

/- The wait for the attachment ends with a look at it. -/
theorem awaitAttachment_observed
    (past : Record) :
    Attaches volumeId nodeId (Observed volumeId nodeId)
      (awaitAttachment settings volumeId nodeId) past := by
  unfold awaitAttachment
  refine (Observes.mapError (forStatus_attaches _ _ past)).bind
    fun disk now h => ?_
  rcases h with ⟨hInUse, between, rfl, _⟩
  split
  · next attachment hAttachment =>
      refine Observes.done_iff.mpr
        ⟨attachment, rfl, disk, ?_, hInUse, hAttachment⟩
      rw [Host.looks_get]
      rfl
  · exact Observes.failed

/- The node is asked for its limits before anything goes on. -/
theorem admitted_attaches
    {α : Type}
    {rest : Program Host PublishVolume.Error α}
    {middle : α → Record → Prop}
    (hRest :
      ∀ now,
        changes now = [] → Admitted volumeId nodeId now →
          Attaches volumeId nodeId middle rest now) :
    Attaches volumeId nodeId middle
      ((getLimits nodeId disk.diskType).bind fun limits =>
        (Program.ofExcept
          (checkLimits nodeId disk volumeId limits)).bind
            fun _ => rest)
      [⟨.backend (.get volumeId), .ok disk⟩] := by
  refine (getLimits_reads (attachesOnce_of_other nofun)
    (fun _ => attachesOnce_of_other nofun)).bind
      fun limits now hNow => ?_
  subst hNow
  refine (Observes.ofExcept _).bind fun _ later h => ?_
  rcases h with ⟨hCheck, rfl⟩
  apply hRest
  · rw [changes_told, Host.changes_of_harmless rfl,
      Host.changes_nil]
  · refine ⟨disk, limits, ?_, ?_, ?_,
      checkLimits_eq_ok_iff.mp hCheck⟩ <;> simp [told]

theorem assess_eq_published
    {attachment : Disk.Attachment}
    (h : assess disk nodeId = .published attachment) :
    disk.status = .inUse ∧
      disk.attachment? nodeId = some attachment := by
  unfold assess at h
  split at h
  · next found hFound =>
      split at h
      · next hInUse =>
          cases h
          exact ⟨hInUse, hFound⟩
      · split at h <;> exact nomatch h
  · split at h
    · split at h <;> exact nomatch h
    · split at h <;> exact nomatch h

theorem detachAll_attaches
    (instances : List String)
    (past : Record) :
    Attaches volumeId nodeId (fun _ _ => True)
      (detachAll volumeId instances) past := by
  induction instances generalizing past with
  | nil => exact Observes.done_iff.mpr trivial
  | cons instanceId instances ih =>
      have hDetach :
          AttachesOnce volumeId nodeId
            (.backend (.detach volumeId instanceId)) past :=
        attachesOnce_of_other nofun
      refine (Observes.mapError (Observes.backend hDetach)).bind
        fun _ now _ => ?_
      exact ih now

/- What a call does to publish a volume, once it has seen it. -/
def proceed
    (settings : Settings)
    (volumeId nodeId : String)
    (disk : Disk) :
    Situation → Program Host PublishVolume.Error Dictionary
  | .published attachment => return describe attachment
  | .nowhere =>
      throw (raise
        (.inconsistent volumeId "in use without any attachment"))
  | .elsewhere instances => do
      within (detachAll volumeId instances)
      throw (.publishedElsewhere
        ("volume " ++ volumeId ++ " is attached to " ++
          ", ".intercalate instances ++
          ", it is being detached, retry once it is available"))
  | .underway => do
      let limits ← getLimits nodeId disk.diskType
      Program.ofExcept (checkLimits nodeId disk volumeId limits)
      awaitAttachment settings volumeId nodeId
  | .toAttach => do
      let limits ← getLimits nodeId disk.diskType
      Program.ofExcept (checkLimits nodeId disk volumeId limits)
      within (attach settings volumeId nodeId disk)
      awaitAttachment settings volumeId nodeId

/- A request is refused, or the volume is looked at first. -/
theorem publish_cases
    (settings : Settings)
    (request : Csi.PublishVolume.Request) :
    (∃ error, publish settings request = .failed error) ∨
      publish settings request =
        (getVolume PublishVolume.Error.volumeMissing
          request.volumeId).bind fun disk =>
            proceed settings request.volumeId request.nodeId disk
              (assess disk request.nodeId) := by
  unfold publish
  split
  · exact .inl ⟨_, rfl⟩
  · cases request.capability.check with
    | error refusal => exact .inl ⟨_, rfl⟩
    | ok _ => exact .inr rfl

/- Each way to go on attaches the volume at most once. -/
theorem proceed_observed :
    Attaches volumeId nodeId (Observed volumeId nodeId)
      (proceed settings volumeId nodeId disk (assess disk nodeId))
      [⟨.backend (.get volumeId), .ok disk⟩] := by
  cases hSituation : assess disk nodeId with
  | published attachment =>
      rcases assess_eq_published hSituation with
        ⟨hInUse, hAttachment⟩
      refine Observes.done_iff.mpr
        ⟨attachment, rfl, disk, ?_, hInUse, hAttachment⟩
      rw [Host.looks_get]
      rfl
  | nowhere => exact Observes.failed
  | elsewhere instances =>
      refine (Observes.mapError (detachAll_attaches _ _)).bind
        fun _ _ _ => ?_
      exact Observes.failed
  | underway =>
      exact admitted_attaches fun now _ _ =>
        awaitAttachment_observed now
  | toAttach =>
      refine admitted_attaches fun now hQuiet hAdmitted => ?_
      refine (Observes.mapError
        (attach_attaches hQuiet hAdmitted)).bind fun _ now _ => ?_
      exact awaitAttachment_observed now

theorem publish_observed
    (settings : Settings)
    (request : Csi.PublishVolume.Request) :
    Attaches request.volumeId request.nodeId
      (Observed request.volumeId request.nodeId)
      (publish settings request) [] := by
  rcases publish_cases settings request with
    ⟨error, hPublish⟩ | hPublish
  · rw [hPublish]
    exact Observes.failed
  · rw [hPublish]
    refine (getVolume_reads _ (attachesOnce_of_other nofun)).bind
      fun disk now hNow => ?_
    subst hNow
    exact proceed_observed

------------------------------------------------------------
-- Messages
------------------------------------------------------------

variable {message : Csi.PublishVolume.Message}
variable {request : Csi.PublishVolume.Request}

/- A request that was read is handled, and its result written. -/
theorem run_serve_publish
    (settings : Settings)
    (replies : Replies)
    (past : Record)
    (hRead :
      Csi.PublishVolume.Request.ofMessage message = .ok request) :
    replies.run ((provisioner settings).serve (.publish message))
        past =
      (((replies.run (publish settings request) past).1.mapError
          PublishVolume.Error.status).map .published,
        (replies.run (publish settings request) past).2) :=
  Replies.run_procedure hRead

theorem run_serve_publish_refused
    {refusal : Rpc.Status}
    (settings : Settings)
    (replies : Replies)
    (past : Record)
    (hRead :
      Csi.PublishVolume.Request.ofMessage message =
        .error refusal) :
    replies.run ((provisioner settings).serve (.publish message))
        past =
      (.error refusal, past) :=
  Replies.run_procedure_refused hRead

/-
  A call attaches at most once, and then the volume that it is
  about to the node that was found to have room for it; and if
  it goes well, its last look showed the volume in use on the
  node, and the answer tells its first attachment there.
-/
theorem publish_attaches_checked
    (settings : Settings)
    (message : Csi.PublishVolume.Message)
    (replies : Replies) :
    let run :=
      replies.run ((provisioner settings).serve (.publish message))
        []
    (∀ later exchange earlier,
      run.2 = later ++ exchange :: earlier →
        AttachesOnce message.volumeId message.nodeId
          exchange.request earlier) ∧
      ∀ answer, run.1 = .ok answer →
        ∃ attachment,
          answer = .published (describe attachment) ∧
            InUseOn message.volumeId message.nodeId attachment
              run.2 := by
  intro run
  cases hRead : Csi.PublishVolume.Request.ofMessage message with
  | error refusal =>
      have hRun : run = (.error refusal, []) :=
        run_serve_publish_refused settings replies [] hRead
      rw [hRun]
      exact ⟨by simp, nofun⟩
  | ok request =>
      have hRun := run_serve_publish settings replies [] hRead
      have hIds := Csi.PublishVolume.Request.ids_of_ofMessage hRead
      have hObserved := publish_observed settings request
      rw [hIds.1, hIds.2] at hObserved
      change run = _ at hRun
      rw [hRun]
      constructor
      · intro later exchange earlier hSplit
        have hOrderly := hObserved.orderly_run replies trivial
        rw [hSplit] at hOrderly
        exact hOrderly.of_split
      · intro answer hAnswer
        cases hEnd : (replies.run (publish settings request) []).1
          with
        | error error =>
            rw [hEnd] at hAnswer
            exact nomatch hAnswer
        | ok context =>
            rw [hEnd] at hAnswer
            cases hAnswer
            rcases hObserved.of_run hEnd with
              ⟨attachment, rfl, hInUse⟩
            exact ⟨attachment, rfl, hInUse⟩

end Attaching

end Service

end BlockVolumes
