import BlockVolumes.Proofs.Rejection.Errors
import BlockVolumes.Service.Provisioner

/-
  The controller rejects arguments before it asks the backend
  or the directory for anything.

  Key theorems include:
    * `Service.Rejection.create_prompt`
    * `Service.Rejection.publish_prompt`
    * `Service.Rejection.expand_prompt`
    * `Service.Rejection.controller_prompt`
-/

namespace BlockVolumes

namespace Service

namespace Rejection

open Rpc (Status)

variable {ε α : Type}

------------------------------------------------------------
-- Waiting and Looking at Volumes
------------------------------------------------------------

/- Polling never fails; it ends with nothing instead. -/
theorem poll_accepting
    (volumeId : String)
    (wanted : Disk → Bool)
    (interval left : Nat) :
    Accepting Error.status
      (Wait.poll volumeId wanted interval left) := by
  induction left with
  | zero => exact fun _ => trivial
  | succ left ih =>
      intro reply
      dsimp only [Program.done_bind]
      split
      · trivial
      · exact fun _ => ih

theorem untilMet_accepting
    (polling : Polling)
    (volumeId expected : String)
    (wanted : Disk → Bool) :
    Accepting Error.status
      (Wait.untilMet polling volumeId expected wanted) := by
  refine (poll_accepting volumeId wanted _ _).bind fun found => ?_
  cases found with
  | some disk => trivial
  | none => exact fun _ => not_isRejection_error rfl

theorem getVolume_accepting
    [RpcError ε]
    {status : ε → Status}
    (hStatus : ∀ s, status (RpcError.ofStatus s) = s)
    {missing : String → ε}
    (hMissing : ∀ id, ¬ (status (missing id)).IsRejection)
    (volumeId : String) :
    Accepting status (Attaching.getVolume missing volumeId) := by
  intro reply
  cases reply with
  | ok disk => trivial
  | error error =>
      dsimp only [Program.done_bind]
      split
      · exact hMissing volumeId
      · exact raise_not_isRejection hStatus rfl

------------------------------------------------------------
-- Creating
------------------------------------------------------------

theorem removeAll_accepting
    (disks : List Disk) :
    Accepting Error.status (Duplicates.removeAll disks) := by
  induction disks with
  | nil => trivial
  | cons disk disks ih =>
      intro reply
      cases reply with
      | ok _ => exact ih
      | error error =>
          dsimp only [Program.done_bind]
          split
          · exact ih
          · exact not_isRejection_error rfl

/- The plan for duplicates fails by what was found, only. -/
theorem not_isRejection_plan
    {settings : Settings}
    {name : String}
    {size : Nat}
    {now : Int}
    {disks : List Disk}
    {error : Error}
    (h : Duplicates.plan settings name size now disks =
      .error error) :
    ¬ error.status.IsRejection := by
  simp only [Duplicates.plan] at h
  split at h
  · cases h
    exact not_isRejection_error rfl
  · split at h
    · cases h
      exact not_isRejection_error rfl
    · split at h
      · cases h
        exact not_isRejection_error rfl
      · cases h

theorem resolve_accepting
    (settings : Settings)
    (name : String)
    (size : Nat)
    (disks : List Disk) :
    Accepting Error.status
      (Duplicates.resolve settings name size disks) := by
  intro clock
  have hPlan :
      Accepting Error.status
        (Program.ofExcept
          (Duplicates.plan settings name size clock disks)) :=
    Program.FailsBy.ofExcept fun _ => not_isRejection_plan
  refine hPlan.bind fun plan => ?_
  exact (removeAll_accepting plan.remove).bind fun _ => trivial

theorem accept_accepting
    (name : String)
    (size : Nat)
    (disk : Disk) :
    Accepting Csi.CreateVolume.Error.status
      (Program.ofExcept (Creation.accept name size disk)) := by
  refine Program.FailsBy.ofExcept fun error h => ?_
  unfold Creation.accept at h
  split at h
  · cases h
    exact raise_not_isRejection (fun _ => rfl) rfl
  · split at h
    · cases h
      exact not_isRejection_of_code rfl
    · exact nomatch h

theorem findExisting_accepting
    (settings : Settings)
    (name : String)
    (size : Nat) :
    Accepting Csi.CreateVolume.Error.status
      (Creation.findExisting settings name size) := by
  refine (reported_accepting fun _ => rfl).bind fun disks => ?_
  split
  · trivial
  · exact (accept_accepting name size _).bind fun _ => trivial
  · refine (within_accepting (fun _ => rfl)
      (resolve_accepting settings name size _)).bind fun disk => ?_
    exact (accept_accepting name size disk).bind fun _ => trivial

theorem next_accepting
    (role storageClass : String) :
    Accepting Error.status (Zones.next role storageClass) := by
  refine (during_accepting _ _ _ _).bind fun nodes => ?_
  change Accepting Error.status
    (if (Zones.ofNodes nodes).isEmpty then _ else _)
  split
  · exact not_isRejection_error rfl
  · exact fun _ => trivial

theorem choose_accepting
    (role : String)
    (parameters : Parameters)
    (requirement : Option Csi.TopologyRequirement) :
    Accepting Error.status
      (Zones.choose role parameters requirement) := by
  unfold Zones.choose
  split
  · trivial
  · trivial
  · exact next_accepting role parameters.classKey

/- What is ordered is read before anything is asked. -/
theorem create_prompt
    (settings : Settings)
    (request : Csi.CreateVolume.Request) :
    Prompt Csi.CreateVolume.Error.status
      (Creation.create settings request) := by
  unfold Creation.create
  cases Creation.readOrder settings request with
  | error status => trivial
  | ok order =>
      refine Program.RefusesAtOnce.of_failsBy ?_
      refine (findExisting_accepting settings _ _).bind
        fun found => ?_
      cases found with
      | some disk => trivial
      | none =>
          refine (within_accepting (fun _ => rfl)
            (choose_accepting _ _ _)).bind fun zone => ?_
          refine (reported_accepting fun _ => rfl).bind fun _ => ?_
          trivial

theorem delete_prompt
    (request : Csi.DeleteVolume.Request) :
    Prompt Csi.DeleteVolume.Error.status
      (Creation.delete request) := by
  intro reply
  cases reply with
  | ok _ => trivial
  | error error =>
      dsimp only [Program.done_bind]
      split
      · trivial
      · exact raise_not_isRejection (fun _ => rfl) rfl

------------------------------------------------------------
-- Attaching
------------------------------------------------------------

theorem detachAll_accepting
    (volumeId : String)
    (instances : List String) :
    Accepting Error.status
      (Attaching.detachAll volumeId instances) := by
  induction instances with
  | nil => trivial
  | cons instanceId instances ih =>
      exact (during_accepting _ _ _ _).bind fun _ => ih

theorem getLimits_accepting
    (nodeId diskType : String) :
    Accepting Csi.PublishVolume.Error.status
      (Attaching.getLimits nodeId diskType) := by
  unfold Attaching.getLimits
  refine (Program.FailsBy.any _).attempt_bind (fun _ => trivial)
    fun error _ => ?_
  dsimp only
  split
  · exact not_isRejection_of_code rfl
  · exact raise_not_isRejection (fun _ => rfl) rfl

theorem checkLimits_accepting
    (nodeId : String)
    (disk : Disk)
    (volumeId : String)
    (limits : Attaching.Limits) :
    Accepting Csi.PublishVolume.Error.status
      (Program.ofExcept
        (Attaching.checkLimits nodeId disk volumeId limits)) := by
  refine Program.FailsBy.ofExcept fun error h => ?_
  unfold Attaching.checkLimits at h
  split at h
  · cases h
    exact not_isRejection_of_code rfl
  · split at h
    · cases h
      exact not_isRejection_of_code rfl
    · exact nomatch h

theorem attach_accepting
    (settings : Settings)
    (volumeId nodeId : String)
    (disk : Disk) :
    Accepting Error.status
      (Attaching.attach settings volumeId nodeId disk) := by
  have hAttach :
      ∀ ready : Disk,
        Accepting Error.status
          (if ready.status.permits .attach then do
            during .backend "attach volume" volumeId
              (Host.backend (.attach volumeId nodeId))
            Host.sleep settings.attachSettle
          else
            throw (.refused volumeId ready.status .attach)) := by
    intro ready
    split
    · exact (during_accepting _ _ _ _).bind fun _ _ => trivial
    · exact not_isRejection_error rfl
  unfold Attaching.attach
  split
  · exact hAttach disk
  · exact (untilMet_accepting _ _ _ _).bind hAttach

theorem awaitAttachment_accepting
    (settings : Settings)
    (volumeId nodeId : String) :
    Accepting Csi.PublishVolume.Error.status
      (Attaching.awaitAttachment settings volumeId nodeId) := by
  refine (within_accepting (fun _ => rfl)
    (untilMet_accepting _ _ _ _)).bind fun disk => ?_
  split
  · trivial
  · exact not_isRejection_of_code rfl

theorem publish_prompt
    (settings : Settings)
    (request : Csi.PublishVolume.Request) :
    Prompt Csi.PublishVolume.Error.status
      (Attaching.publish settings request) := by
  unfold Attaching.publish
  split
  · trivial
  · cases request.capability.check with
    | error status => trivial
    | ok _ =>
        refine Program.RefusesAtOnce.of_failsBy ?_
        refine (getVolume_accepting (fun _ => rfl)
          (fun _ => not_isRejection_of_code rfl)
          _).bind fun disk => ?_
        split
        · trivial
        · exact raise_not_isRejection (fun _ => rfl) rfl
        · refine (within_accepting (fun _ => rfl)
            (detachAll_accepting _ _)).bind fun _ => ?_
          exact not_isRejection_of_code rfl
        · refine (getLimits_accepting _ _).bind fun limits => ?_
          refine (checkLimits_accepting _ _ _ _).bind fun _ => ?_
          exact awaitAttachment_accepting settings _ _
        · refine (getLimits_accepting _ _).bind fun limits => ?_
          refine (checkLimits_accepting _ _ _ _).bind fun _ => ?_
          refine (within_accepting (fun _ => rfl)
            (attach_accepting settings _ _ disk)).bind fun _ => ?_
          exact awaitAttachment_accepting settings _ _

theorem unpublish_prompt
    (settings : Settings)
    (request : Csi.UnpublishVolume.Request) :
    Prompt Csi.UnpublishVolume.Error.status
      (Attaching.unpublish settings request) := by
  intro reply
  cases reply with
  | error error =>
      dsimp only [Program.done_bind]
      split
      · trivial
      · exact raise_not_isRejection (fun _ => rfl) rfl
  | ok disk =>
      change Accepting Csi.UnpublishVolume.Error.status
        (Attaching.unpublishFrom settings request.volumeId
          request.nodeId disk)
      unfold Attaching.unpublishFrom
      split
      · trivial
      · split
        · exact not_isRejection_of_code rfl
        · split
          · trivial
          · refine (reported_accepting fun _ => rfl).bind fun _ => ?_
            exact (within_accepting (fun _ => rfl)
              (untilMet_accepting _ _ _ _)).bind fun _ => trivial

------------------------------------------------------------
-- Growing
------------------------------------------------------------

theorem growTo_accepting
    (settings : Settings)
    (volumeId : String)
    (size : Nat)
    (disk : Disk) :
    Accepting Error.status
      (Growing.growTo settings volumeId size disk) := by
  unfold Growing.growTo
  split
  · refine (during_accepting _ _ _ _).bind fun _ => ?_
    exact (untilMet_accepting _ _ _ _).bind fun _ => trivial
  · exact not_isRejection_error rfl

/- A size is refused before the lock is taken. -/
theorem expand_prompt
    (settings : Settings)
    (request : Csi.ExpandVolume.Request) :
    Prompt Csi.ExpandVolume.Error.status
      (Growing.expand settings request) := by
  unfold Growing.expand
  split
  · split
    · trivial
    · refine Program.RefusesAtOnce.of_failsBy
        (exclusively_accepting ?_)
      refine (getVolume_accepting (fun _ => rfl)
        (fun _ => not_isRejection_of_code rfl)
        _).bind fun disk => ?_
      split
      · trivial
      · exact (within_accepting (fun _ => rfl)
          (growTo_accepting settings _ _ disk)).bind
            fun _ => trivial
  · trivial

------------------------------------------------------------
-- Reporting
------------------------------------------------------------

theorem validate_prompt
    (request : Csi.ValidateCapabilities.Request) :
    Prompt Csi.ValidateCapabilities.Error.status
      (Reporting.validate request) := by
  refine Program.RefusesAtOnce.of_failsBy ?_
  exact (getVolume_accepting (fun _ => rfl)
    (fun _ => not_isRejection_of_code rfl)
    _).bind fun _ => trivial

theorem list_prompt
    (settings : Settings)
    (request : Csi.ListVolumes.Request) :
    Prompt Csi.ListVolumes.Error.status
      (Reporting.list settings request) := by
  unfold Reporting.list
  split
  · trivial
  · refine Program.RefusesAtOnce.of_failsBy ?_
    exact (reported_accepting fun _ => rfl).bind fun _ => trivial

theorem nodeCondition_accepting
    (instances : List String) :
    Accepting Error.status (Reporting.nodeCondition instances) := by
  induction instances with
  | nil => trivial
  | cons instanceId instances ih =>
      refine (during_accepting _ _ _ _).bind fun node => ?_
      cases node with
      | none => trivial
      | some node =>
          change Accepting Error.status
            (if node.ready then _ else _)
          split
          · exact ih
          · trivial

theorem get_prompt
    (settings : Settings)
    (request : Csi.GetVolume.Request) :
    Prompt Csi.GetVolume.Error.status
      (Reporting.get settings request) := by
  refine Program.RefusesAtOnce.of_failsBy ?_
  refine (getVolume_accepting (fun _ => rfl)
    (fun _ => not_isRejection_of_code rfl)
    _).bind fun disk => ?_
  have hState :
      Accepting Error.status
        (Reporting.stateOf request.volumeId disk) := by
    unfold Reporting.stateOf
    split
    · trivial
    · exact (nodeCondition_accepting _).bind fun _ => trivial
    · trivial
  exact (within_accepting (fun _ => rfl) hState).bind
    fun _ => trivial

------------------------------------------------------------
-- Messages
------------------------------------------------------------

theorem controller_prompt
    (settings : Settings)
    (message : Csi.Controller.Message) :
    Prompt id ((provisioner settings).serve message) := by
  cases message with
  | identity question => trivial
  | features => trivial
  | create message =>
      exact procedure_prompt _ _ _ (create_prompt settings)
  | delete request =>
      exact procedure_prompt _ _ _ delete_prompt
  | publish message =>
      exact procedure_prompt _ _ _ (publish_prompt settings)
  | unpublish request =>
      exact procedure_prompt _ _ _ (unpublish_prompt settings)
  | validate message =>
      exact procedure_prompt _ _ _ validate_prompt
  | list message =>
      exact procedure_prompt _ _ _ (list_prompt settings)
  | expand message =>
      exact procedure_prompt _ _ _ (expand_prompt settings)
  | get request =>
      exact procedure_prompt _ _ _ (get_prompt settings)
  | unoffered name => trivial
  | unheardOf => trivial

end Rejection

end Service

end BlockVolumes
