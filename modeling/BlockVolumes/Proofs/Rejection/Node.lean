import BlockVolumes.Proofs.Mounting.Expanding
import BlockVolumes.Proofs.Rejection.Errors

/-
  The node rejects arguments before it looks for a device or
  at a mount.

  Key theorems include:
    * `Service.Rejection.stage_prompt`
    * `Service.Rejection.publishTarget_prompt`
    * `Service.Rejection.nodeExpand_prompt`
    * `Service.Rejection.node_prompt`
-/

namespace BlockVolumes

namespace Service

namespace Rejection

------------------------------------------------------------
-- Mounting
------------------------------------------------------------

theorem mountStage_accepting
    (volumeId : String)
    (staging : Path)
    (plan : Mounting.StagePlan) :
    Accepting Error.status
      (Mounting.mountStage volumeId staging plan) := by
  have hFormat :
      Accepting Error.status
        (Mounting.formatIfBlank volumeId plan) := by
    unfold Mounting.formatIfBlank
    split
    · trivial
    · refine (during_accepting _ _ _ _).bind fun formatted => ?_
      cases formatted
      · exact during_accepting _ _ _ _
      · trivial
  refine hFormat.bind fun _ => ?_
  refine (during_accepting _ _ _ _).bind fun mounted => ?_
  cases mounted
  · exact during_accepting _ _ _ _
  · trivial

theorem findDevice_accepting
    (settle : Duration)
    (volumeId : String)
    (device : Path) :
    Accepting Error.status
      (Mounting.findDevice settle volumeId device) := by
  refine (during_accepting _ _ _ _).bind fun found => ?_
  cases found
  · refine (during_accepting _ _ _ _).bind fun _ => ?_
    exact fun _ => during_accepting _ _ _ _
  · trivial

theorem stage_prompt
    (settings : Settings)
    (premium : Pattern)
    (request : Csi.NodeStage.Request) :
    Prompt Csi.NodeStage.Error.status
      (Mounting.stage settings premium request) := by
  unfold Mounting.stage
  cases request.capability.check with
  | error status => trivial
  | ok _ =>
      refine Program.RefusesAtOnce.of_failsBy ?_
      refine (within_accepting (fun _ => rfl)
        (findDevice_accepting _ _ _)).bind fun found => ?_
      cases found
      · exact not_isRejection_of_code rfl
      · exact exclusively_accepting (within_accepting
          (fun _ => rfl) (mountStage_accepting _ _ _))

theorem unmountIfMounted_accepting
    (check unmount volumeId : String)
    (path : Path) :
    Accepting Error.status
      (Mounting.unmountIfMounted check unmount volumeId path) := by
  refine (during_accepting _ _ _ _).bind fun mounted => ?_
  cases mounted
  · trivial
  · exact during_accepting _ _ _ _

theorem unstage_prompt
    (request : Csi.NodeUnstage.Request) :
    Prompt Csi.NodeUnstage.Error.status
      (Mounting.unstage request) :=
  Program.RefusesAtOnce.of_failsBy
    (exclusively_accepting (within_accepting (fun _ => rfl)
      (unmountIfMounted_accepting _ _ _ _)))

theorem mountTarget_accepting
    (request : Csi.NodePublish.Request)
    (staging : Path) :
    Accepting Error.status
      (Mounting.mountTarget request staging) := by
  refine (during_accepting _ _ _ _).bind fun mounted => ?_
  cases mounted
  · intro made
    refine (during_accepting _ _ _ _).bind fun _ => ?_
    exact during_accepting _ _ _ _
  · trivial

/- The capability is checked before the target is looked at. -/
theorem publishTarget_prompt
    (request : Csi.NodePublish.Request) :
    Prompt Csi.NodePublish.Error.status
      (Mounting.publish request) := by
  unfold Mounting.publish
  split
  · trivial
  · cases request.capability.check with
    | error status => trivial
    | ok _ =>
        exact Program.RefusesAtOnce.of_failsBy
          (within_accepting (fun _ => rfl)
            (mountTarget_accepting _ _))

theorem unpublishTarget_prompt
    (request : Csi.NodeUnpublish.Request) :
    Prompt Csi.NodeUnpublish.Error.status
      (Mounting.unpublish request) := by
  refine Program.RefusesAtOnce.of_failsBy ?_
  exact (within_accepting (fun _ => rfl)
    (unmountIfMounted_accepting _ _ _ _)).bind
      fun _ _ => trivial

------------------------------------------------------------
-- The Node
------------------------------------------------------------

theorem usage_prompt
    (request : Csi.VolumeStats.Request) :
    Prompt Csi.VolumeStats.Error.status
      (NodeAgent.usage request) := by
  refine Program.RefusesAtOnce.of_failsBy ?_
  refine (reported_accepting fun _ => rfl).bind fun found => ?_
  cases found
  · exact not_isRejection_of_code rfl
  · refine (reported_accepting fun _ => rfl).bind fun mounted => ?_
    exact (reported_accepting fun _ => rfl).bind fun _ => trivial

theorem growOn_accepting
    (request : Csi.NodeExpand.Request)
    (device : Path) :
    Accepting Csi.NodeExpand.Error.status
      (NodeAgent.growOn request device) := by
  have hResize :
      ∀ filesystem,
        Accepting Csi.NodeExpand.Error.status
          (NodeAgent.resizeOn request device filesystem) :=
    fun filesystem =>
      (reported_accepting fun _ => rfl).bind fun _ => trivial
  unfold NodeAgent.growOn
  split
  · exact hResize _
  · exact (reported_accepting fun _ => rfl).bind hResize

theorem nodeExpand_prompt
    (request : Csi.NodeExpand.Request) :
    Prompt Csi.NodeExpand.Error.status
      (NodeAgent.expand request) := by
  rw [NodeAgent.expand_eq]
  cases NodeAgent.checkStated request.capability with
  | error status => trivial
  | ok _ =>
      refine Program.RefusesAtOnce.of_failsBy ?_
      refine (reported_accepting fun _ => rfl).bind fun found => ?_
      cases found with
      | none => exact not_isRejection_of_code rfl
      | some mounted => exact growOn_accepting request mounted.1

/- The topology of the settings stands in for any failure. -/
theorem info_prompt
    (settings : Settings) :
    Prompt Csi.NodeInfo.Error.status
      (NodeAgent.info settings) := by
  refine Program.RefusesAtOnce.of_failsBy ?_
  have hTopology :
      Accepting Error.status
        (NodeAgent.currentTopology settings) := by
    refine (Program.FailsBy.any _).attempt_bind (fun found => ?_)
      fun _ _ => trivial
    cases found with
    | some topology => trivial
    | none =>
        intro claimed
        cases claimed
        · trivial
        · exact fun _ => trivial
  exact (within_accepting (fun _ => rfl) hTopology).bind
    fun _ => trivial

------------------------------------------------------------
-- Messages
------------------------------------------------------------

theorem node_prompt
    (settings : Settings)
    (premium : Pattern)
    (isDirectory : Path → Bool)
    (message : Csi.Node.Message) :
    Prompt id
      ((nodeAgent settings premium).serve isDirectory message) := by
  cases message with
  | identity question => trivial
  | features => trivial
  | stage message =>
      exact procedure_prompt _ _ _ (stage_prompt settings premium)
  | unstage message =>
      exact procedure_prompt _ _ _ unstage_prompt
  | publish message =>
      exact procedure_prompt _ _ _ publishTarget_prompt
  | unpublish message =>
      exact procedure_prompt _ _ _ unpublishTarget_prompt
  | usage message =>
      exact procedure_prompt _ _ _ usage_prompt
  | expand message =>
      exact procedure_prompt _ _ _ nodeExpand_prompt
  | info =>
      have hAsked :
          Prompt id
            (Csi.procedure "NodeGetInfo" Csi.NodeInfo.Error.status
              (fun info => Csi.Node.Answer.info info.toAnswer)
              (some (nodeAgent settings premium).info) (.ok ())) :=
        procedure_prompt _ _ _ fun _ => info_prompt settings
      exact hAsked
  | unheardOf => trivial

end Rejection

end Service

end BlockVolumes
