import BlockVolumes.Proofs.Memory.Outcome
import BlockVolumes.Service.NodeAgent

/-
  Calls of the node plugin that run alone, and what they do to
  the mounts when nothing fails.

  Key definitions include:
    * `Mounting.served`

  Key theorems include:
    * `Mounting.run_call`
    * `Mounting.served_stage`
    * `Mounting.served_stage_again`
    * `Mounting.served_unstage`
    * `Mounting.served_publish`
    * `Mounting.served_publish_again`
-/

namespace BlockVolumes

namespace Mounting

open Memory (Mounter World)
open Memory.World (Alike Yields run run_bind_of_ok run_checked_eq_ok
  run_exclusively run_mapError run_ofExcept run_perform_bind
  run_procedure_eq_ok run_within)
open Service (nodeAgent)

variable {settings : Settings}
variable {premium : Pattern}
variable {world : World}
variable {tree : FileTree}
variable {operation volumeId : String}
variable {path : Path}

/- The answer to a call that runs alone, and the world after it. -/
def served
    (settings : Settings)
    (premium : Pattern)
    (message : Csi.Node.Message)
    (world : World) :
    Except Rpc.Status Csi.Node.Answer × World :=
  World.run
    ((nodeAgent settings premium).serve world.tree.isDirectory message)
    world

------------------------------------------------------------
-- Calls of the Mounter
------------------------------------------------------------

/- Without a script, the mounter answers. -/
theorem run_call
    {call : Mount.Call}
    {a : call.Result}
    {mounter : Mounter}
    (hScript : world.mounterFailures = [])
    (hAnswer :
      world.mounter.answer world.tree call = (.ok a, mounter)) :
    run (Service.Mounting.call operation volumeId call) world =
      (.ok a, { world with mounter := mounter }) := by
  have hCall :
      world.callMounter call =
        (.ok a, { world with mounter := mounter }) := by
    have hTake :
        world.mounterFailures.take call.name =
          (none, world.mounterFailures) := by
      rw [hScript]
      rfl
    simp only [World.callMounter, hTake, hAnswer]
  have hRun :
      run (Host.mounter call) world =
        (.ok a, { world with mounter := mounter }) := by
    change
      run (Program.ofExcept (world.callMounter call).1)
        (world.callMounter call).2 = _
    rw [hCall]
    exact run_ofExcept _ _
  change run ((Host.mounter call).mapError _) world = _
  rw [run_mapError, hRun]
  rfl

/- A question that the mounter answers changes nothing. -/
theorem run_question
    {call : Mount.Call}
    {reply : call.Reply}
    {a : call.Result}
    (hScript : world.mounterFailures = [])
    (hAnswer :
      world.mounter.answer world.tree call = (reply, world.mounter))
    (hReply : reply = .ok a) :
    run (Service.Mounting.call operation volumeId call) world =
      (.ok a, world) := by
  rw [hReply] at hAnswer
  exact run_call hScript hAnswer

theorem run_isMounted
    {mounted : Bool}
    (hScript : world.mounterFailures = [])
    (h : world.mounter.isMounted world.tree path = .ok mounted) :
    run (Service.Mounting.isMounted operation volumeId path) world =
      (.ok mounted, world) :=
  run_question hScript rfl h

/- The mounter is asked whether something is mounted. -/
theorem isMounted_yields
    (operation volumeId : String)
    (world : World)
    (path : Path) :
    Yields (Service.Mounting.isMounted operation volumeId path) world
      (fun mounted now =>
        Alike world now ∧
          world.mounter.isMounted world.tree path = .ok mounted)
      (Alike world) :=
  Yields.mapError (.question rfl)

/- A directory is made, or the failure of making it is reported. -/
theorem makeDirectories_yields
    {cause : Files.Failure → Service.Cause}
    {next : Program Host Service.Error Unit}
    {good : Unit → World → Prop}
    {bad : World → Prop}
    (hError : bad (world.makeDirectories path).2)
    (hOk :
      (world.makeDirectories path).1 = .ok () →
        Yields next (world.makeDirectories path).2 good bad) :
    Yields
      ((Host.makeDirectories path).bind fun made =>
        (Service.during cause operation volumeId
          (Program.ofExcept made)).bind fun _ => next)
      world good bad := by
  refine Yields.perform ?_
  have hOutcome :
      Yields
        (Service.during cause operation volumeId
          (Program.ofExcept (world.makeDirectories path).1) :
          Program Host Service.Error Unit)
        (world.makeDirectories path).2
        (fun _ last =>
          last = (world.makeDirectories path).2 ∧
            (world.makeDirectories path).1 = .ok ())
        bad :=
    .mapError (.ofExcept (fun _ hMade => ⟨rfl, hMade⟩)
      fun _ _ => hError)
  refine Yields.bind hOutcome ?_
  rintro _ _ ⟨rfl, hMade⟩
  exact hOk hMade

------------------------------------------------------------
-- Calls of the Plugin
------------------------------------------------------------

/- What is mounted at the staging path of a volume is unmounted. -/
theorem served_unstage
    {message : Csi.NodeUnstage.Message}
    {request : Csi.NodeUnstage.Request}
    (hScript : world.mounterFailures = [])
    (hRead :
      Csi.NodeUnstage.Request.ofMessage message = .ok request)
    (hMounted :
      world.mounter.isMounted world.tree request.stagingPath =
        .ok true) :
    served settings premium (.unstage message) world =
      (.ok .unstaged,
        { world with
          mounter :=
            world.mounter.unmount world.tree request.stagingPath }) := by
  refine run_procedure_eq_ok.mpr ⟨request, (), hRead, ?_, rfl⟩
  change run (Host.exclusively _) world = _
  rw [run_exclusively, run_within]
  have hRun :
      run
        (Service.Mounting.unmountIfMounted
          "check staging mount of" "unmount staging path of"
          request.volumeId request.stagingPath) world =
        (.ok (),
          { world with
            mounter :=
              world.mounter.unmount world.tree
                request.stagingPath }) := by
    change run (Program.bind _ _) world = _
    rw [run_bind_of_ok (run_isMounted hScript hMounted)]
    exact run_call hScript rfl
  rw [hRun]
  rfl

section Stage

variable {message : Csi.NodeStage.Message}
variable {request : Csi.NodeStage.Request}
variable {plan : Service.Mounting.StagePlan}

theorem run_findDevice
    {settle : Duration}
    {device : Path}
    (hScript : world.mounterFailures = [])
    (hDevice : world.mounter.hasPath world.tree device = true) :
    run (Service.Mounting.findDevice settle volumeId device) world =
      (.ok true, world) := by
  have hThere :
      run (Service.Mounting.deviceExists volumeId device) world =
        (.ok true, world) :=
    run_question hScript rfl (congrArg Except.ok hDevice)
  change run (Program.bind _ _) world = _
  rw [run_bind_of_ok hThere]
  rfl

theorem run_formatIfBlank
    (hScript : world.mounterFailures = [])
    (hData : (world.mounter.format? plan.device).isSome = true) :
    run (Service.Mounting.formatIfBlank volumeId plan) world =
      (.ok (), world) := by
  have hFormatted :
      run (Service.Mounting.isFormatted volumeId plan.device) world =
        (.ok true, world) :=
    run_question hScript rfl (congrArg Except.ok hData)
  unfold Service.Mounting.formatIfBlank
  split
  · rfl
  · change run (Program.bind _ _) world = _
    rw [run_bind_of_ok hFormatted]
    rfl

theorem run_mountStage
    (hScript : world.mounterFailures = [])
    (hData : (world.mounter.format? plan.device).isSome = true)
    (hFree : world.mounter.isMounted world.tree path = .ok false) :
    run (Service.Mounting.mountStage volumeId path plan) world =
      (.ok (),
        { world with
          mounter :=
            (world.mounter.mount world.tree (some plan.device) path
              plan.filesystem plan.flags []).2 }) := by
  change run (Program.bind _ _) world = _
  rw [run_bind_of_ok (run_formatIfBlank hScript hData)]
  change run (Program.bind _ _) world = _
  rw [run_bind_of_ok (run_isMounted hScript hFree)]
  exact run_call hScript rfl

/- A call to stage goes well if the part goes well that mounts. -/
theorem served_of_mountStage
    {after : World}
    (hScript : world.mounterFailures = [])
    (hRead :
      Csi.NodeStage.Request.ofMessage world.tree.isDirectory message =
        .ok request)
    (hCheck : request.capability.check = .ok ())
    (hPlan :
      Service.Mounting.planStage settings premium request = plan)
    (hDevice : world.mounter.hasPath world.tree plan.device = true)
    (hRun :
      run
        (Service.Mounting.mountStage request.volumeId
          request.stagingPath plan) world =
        (.ok (), after)) :
    served settings premium (.stage message) world =
      (.ok .staged, after) := by
  refine run_procedure_eq_ok.mpr ⟨request, (), hRead, ?_, rfl⟩
  have hFound :
      run
        (Service.within
          (Service.Mounting.findDevice settings.deviceSettle
            request.volumeId plan.device) :
          Program Host Csi.NodeStage.Error Bool) world =
        (.ok true, world) := by
    rw [run_within, run_findDevice hScript hDevice]
    rfl
  unfold Service.Mounting.stage
  rw [hPlan]
  change run (Program.bind _ _) world = _
  rw [run_bind_of_ok (run_checked_eq_ok.mpr ⟨hCheck, rfl⟩)]
  change run (Program.bind _ _) world = _
  rw [run_bind_of_ok hFound]
  change run (Host.exclusively _) world = _
  rw [run_exclusively, run_within, hRun]
  rfl

/- A volume with data is mounted at its staging path. -/
theorem served_stage
    (hScript : world.mounterFailures = [])
    (hRead :
      Csi.NodeStage.Request.ofMessage world.tree.isDirectory message =
        .ok request)
    (hCheck : request.capability.check = .ok ())
    (hPlan :
      Service.Mounting.planStage settings premium request = plan)
    (hDevice : world.mounter.hasPath world.tree plan.device = true)
    (hData : (world.mounter.format? plan.device).isSome = true)
    (hFree :
      world.mounter.isMounted world.tree request.stagingPath =
        .ok false) :
    served settings premium (.stage message) world =
      (.ok .staged,
        { world with
          mounter :=
            (world.mounter.mount world.tree (some plan.device)
              request.stagingPath plan.filesystem plan.flags
              []).2 }) :=
  served_of_mountStage hScript hRead hCheck hPlan hDevice
    (run_mountStage hScript hData hFree)

/- Nothing happens where something is mounted at the staging path. -/
theorem served_stage_again
    (hScript : world.mounterFailures = [])
    (hRead :
      Csi.NodeStage.Request.ofMessage world.tree.isDirectory message =
        .ok request)
    (hCheck : request.capability.check = .ok ())
    (hPlan :
      Service.Mounting.planStage settings premium request = plan)
    (hDevice : world.mounter.hasPath world.tree plan.device = true)
    (hData : (world.mounter.format? plan.device).isSome = true)
    (hMounted :
      world.mounter.isMounted world.tree request.stagingPath =
        .ok true) :
    served settings premium (.stage message) world =
      (.ok .staged, world) := by
  refine served_of_mountStage hScript hRead hCheck hPlan hDevice ?_
  change run (Program.bind _ _) world = _
  rw [run_bind_of_ok (run_formatIfBlank hScript hData)]
  change run (Program.bind _ _) world = _
  rw [run_bind_of_ok (run_isMounted hScript hMounted)]
  rfl

end Stage

section Publish

variable {message : Csi.NodePublish.Message}
variable {request : Csi.NodePublish.Request}
variable {staging : Path}
variable {after : World}

/- A call to publish goes well if the part goes well that mounts. -/
theorem served_of_mountTarget
    (hRead :
      Csi.NodePublish.Request.ofMessage world.tree.isDirectory
        message = .ok request)
    (hStaging : request.stagingPath = some staging)
    (hCheck : request.capability.check = .ok ())
    (hRun :
      run (Service.Mounting.mountTarget request staging) world =
        (.ok (), after)) :
    served settings premium (.publish message) world =
      (.ok .published, after) := by
  refine run_procedure_eq_ok.mpr ⟨request, (), hRead, ?_, rfl⟩
  change run (Service.Mounting.publish request) world = _
  unfold Service.Mounting.publish
  rw [hStaging]
  change run (Program.bind _ _) world = _
  rw [run_bind_of_ok (run_checked_eq_ok.mpr ⟨hCheck, rfl⟩),
    run_within, hRun]
  rfl

/- A volume is mounted at a target where nothing is mounted. -/
theorem served_publish
    (hScript : world.mounterFailures = [])
    (hRead :
      Csi.NodePublish.Request.ofMessage world.tree.isDirectory
        message = .ok request)
    (hStaging : request.stagingPath = some staging)
    (hCheck : request.capability.check = .ok ())
    (hFree :
      world.mounter.isMounted world.tree request.targetPath =
        .ok false)
    (hMade :
      world.tree.makeDirectories request.targetPath = (.ok (), tree)) :
    served settings premium (.publish message) world =
      (.ok .published,
        { world with
          tree := tree
          mounter :=
            (world.mounter.mount tree (some staging)
              request.targetPath ""
              (Service.Mounting.publishOptions request) []).2 }) := by
  refine served_of_mountTarget hRead hStaging hCheck ?_
  have hTree :
      world.answer (.makeDirectories request.targetPath) =
        (.ok (), { world with tree := tree }) := by
    change world.makeDirectories request.targetPath = _
    unfold World.makeDirectories
    rw [hMade]
  change run (Program.bind _ _) world = _
  rw [run_bind_of_ok (run_isMounted hScript hFree)]
  change run (Program.bind (Program.perform _) _) world = _
  rw [run_perform_bind hTree]
  exact run_call hScript rfl

/- Nothing happens where something is mounted at the target. -/
theorem served_publish_again
    (hScript : world.mounterFailures = [])
    (hRead :
      Csi.NodePublish.Request.ofMessage world.tree.isDirectory
        message = .ok request)
    (hStaging : request.stagingPath = some staging)
    (hCheck : request.capability.check = .ok ())
    (hMounted :
      world.mounter.isMounted world.tree request.targetPath =
        .ok true) :
    served settings premium (.publish message) world =
      (.ok .published, world) := by
  refine served_of_mountTarget hRead hStaging hCheck ?_
  change run (Program.bind _ _) world = _
  rw [run_bind_of_ok (run_isMounted hScript hMounted)]
  rfl

end Publish

end Mounting

end BlockVolumes
