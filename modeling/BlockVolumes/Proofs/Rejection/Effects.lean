import BlockVolumes.Memory.World
import BlockVolumes.Proofs.Rejection.Controller
import BlockVolumes.Proofs.Rejection.Node

/-
  Calls that are rejected for their arguments have no effect.

  Key theorems include:
    * `Service.Rejection.rejected_untouched`
-/

namespace BlockVolumes

namespace Service

namespace Rejection

open Memory (World)
open Rpc (Status)

/-
  A call of either service that is rejected for its arguments
  has put no request to the backend, the directory, the mounter
  or anything else, in whatever way requests would have been
  answered. A world in memory is as before: its volumes, mounts
  and nodes, all that was recorded, and the turns of zones.
-/
theorem rejected_untouched
    {settings : Settings}
    {premium : Pattern}
    {isDirectory : Path → Bool}
    {status : Status}
    (hRejected : status.IsRejection) :
    (∀ message past,
      Program.Reaches Host.recorded
          ((provisioner settings).serve message, [])
          (.failed status, past) →
        past = []) ∧
    (∀ message past,
      Program.Reaches Host.recorded
          ((nodeAgent settings premium).serve isDirectory message,
            [])
          (.failed status, past) →
        past = []) ∧
    (∀ message world after,
      World.run ((provisioner settings).serve message) world =
          (.error status, after) →
        after = world) ∧
    (∀ message world after,
      World.run
          ((nodeAgent settings premium).serve isDirectory message)
          world =
          (.error status, after) →
        after = world) := by
  refine ⟨?_, ?_, ?_, ?_⟩
  · intro message past hReach
    exact past_of_prompt (controller_prompt settings message)
      hReach hRejected
  · intro message past hReach
    exact past_of_prompt
      (node_prompt settings premium isDirectory message)
      hReach hRejected
  · intro message world after hRun
    exact (controller_prompt settings message).state_of_run hRun
      hRejected
  · intro message world after hRun
    exact (node_prompt settings premium isDirectory
      message).state_of_run hRun hRejected

/-
  Both services reject a volume without a filesystem, one when
  it is attached and the other when it is staged.
-/
theorem rejected_untouched_block :
    let capability : Csi.CapabilityMessage :=
      { mode := some 1, access := some .block }
    let attach : Csi.Controller.Message :=
      .publish
        { volumeId := "vol-1"
          nodeId := "node-1"
          capability := some capability }
    let stage : Csi.Node.Message :=
      .stage
        { volumeId := "vol-1"
          stagingPath := "/staging"
          capability := some capability }
    let status : Status :=
      ⟨.unimplemented, "Raw block volumes are not supported"⟩
    let premium : Pattern := .atStart
    let world : World := { registering := true }
    status.IsRejection ∧
      (∃ past,
        Program.Reaches Host.recorded
          ((provisioner {}).serve attach, [])
          (.failed status, past) ∧ past = []) ∧
      ∃ after,
        World.run
          ((nodeAgent {} premium).serve (fun _ => true) stage)
          world = (.error status, after) ∧ after = world := by
  -- Said of closed terms, so that it can be computed.
  have hServe :
      (nodeAgent {} .atStart).serve (fun _ => true)
          (.stage
            { volumeId := "vol-1"
              stagingPath := "/staging"
              capability := some
                { mode := some 1, access := some .block } }) =
        .failed ⟨.unimplemented,
          "Raw block volumes are not supported"⟩ :=
    rfl
  intro capability attach stage status premium world
  have hRejected : status.IsRejection := rfl
  have hReach :
      Program.Reaches Host.recorded
        ((provisioner {}).serve attach, [])
        (.failed status, []) :=
    .refl
  have hRun :
      World.run
        ((nodeAgent {} premium).serve (fun _ => true) stage)
        world = (.error status, world) :=
    congrArg (fun program => World.run program world) hServe
  rcases rejected_untouched hRejected with ⟨hAttach, _, _, hStage⟩
  exact ⟨hRejected, ⟨[], hReach, hAttach attach [] hReach⟩, world,
    hRun, hStage stage world world hRun⟩

end Rejection

end Service

end BlockVolumes
