import BlockVolumes.Memory.World
import BlockVolumes.Proofs.Csi.Reading
import BlockVolumes.Proofs.Program.Exchanges
import BlockVolumes.Proofs.Staging.Calls
import BlockVolumes.Proofs.Transitions.Looks

/-
  When the staging of a volume is answered by a status that
  says that something was not found. It may be the device, or
  whatever the mounter did not find in the call that failed.

  Key theorems include:
    * `Service.Mounting.StageEnds.notFound_iff`
    * `Service.Mounting.stage_answers_notFound_iff`
-/

namespace BlockVolumes

namespace Service

namespace Mounting

open Host (Record Replies lastFailure?)

/- A failure of the mounter is not found as its cause is. -/
theorem code_during_mount_eq_notFound_iff
    {operation subject : String}
    {cause : Mount.Error} :
    (Error.during operation subject (.mount cause)).code =
        .notFound ↔
      cause.isNotFound = true := by
  change (if cause.isNotFound = true then Rpc.Code.notFound
    else .internal) = .notFound ↔ _
  split
  · next h => simp [h]
  · next h => simp [h]

/-
  Of the ways in which staging ends, those that are answered
  so are a missing device and a call that missed something.
-/
theorem StageEnds.notFound_iff
    {settle : Duration}
    {device : Path}
    {result : Except Csi.NodeStage.Error Unit}
    {now : Record}
    (h : StageEnds settle device result now) :
    (∃ error, result = .error error ∧
        error.status.code = .notFound) ↔
      now = absence settle device ∨
        ∃ cause,
          lastFailure? now = some cause ∧
            cause.isNotFound = true := by
  cases h with
  | staged hLast =>
      simp [absence, hLast]
  | @failed operation subject cause now hLast =>
      have hPresent : now ≠ absence settle device := by
        rintro rfl
        exact nomatch hLast
      rw [or_iff_right hPresent, hLast]
      constructor
      · rintro ⟨_, ⟨⟩, hCode⟩
        exact ⟨cause, rfl,
          code_during_mount_eq_notFound_iff.mp hCode⟩
      · rintro ⟨_, ⟨⟩, hCause⟩
        exact ⟨_, rfl,
          code_during_mount_eq_notFound_iff.mpr hCause⟩
  | missing =>
      exact iff_of_true ⟨_, rfl, rfl⟩ (.inl rfl)
  | @refused status hCode =>
      apply iff_of_false
      · rintro ⟨_, ⟨⟩, hOther⟩
        exact hCode hOther
      · rintro (hAbsent | ⟨_, hLast, _⟩)
        · exact nomatch hAbsent
        · exact nomatch hLast

/-
  Staging is answered so if the device was missing both before
  and after the events of the devices were repeated, after
  which nothing is formatted or mounted, or if it was ended by
  a call of the mounter that did not find something.
-/
theorem stage_answers_notFound_iff
    (settings : Settings)
    (premium : Pattern)
    (isDirectory : Path → Bool)
    (message : Csi.NodeStage.Message)
    (replies : Replies) :
    let device :=
      Device.path premium message.volumeId
        (diskTypeOf settings message.context)
    let run :=
      replies.run
        ((nodeAgent settings premium).serve isDirectory
          (.stage message)) []
    (∃ status, run.1 = .error status ∧ status.code = .notFound) ↔
      run.2 = absence settings.deviceSettle device ∨
        ∃ cause,
          lastFailure? run.2 = some cause ∧
            cause.isNotFound = true := by
  intro device run
  cases hRead :
      Csi.NodeStage.Request.ofMessage isDirectory message with
  | error refusal =>
      have hRun : run = (.error refusal, []) :=
        Replies.run_procedure_refused hRead
      rw [hRun]
      apply iff_of_false
      · rintro ⟨_, ⟨⟩, hCode⟩
        rw [Csi.NodeStage.Request.code_of_ofMessage_eq_error hRead]
          at hCode
        exact nomatch hCode
      · rintro (hAbsent | ⟨_, hLast, _⟩)
        · exact nomatch hAbsent
        · exact nomatch hLast
  | ok request =>
      rcases Csi.NodeStage.Request.fields_of_ofMessage hRead with
        ⟨hId, hContext, _⟩
      have hDevice :
          (planStage settings premium request).device = device := by
        rw [planStage, hId, hContext]
      let staged :=
        replies.run (stage settings premium request) []
      have hEnds :
          StageEnds settings.deviceSettle device staged.1
            staged.2 := by
        rw [← hDevice]
        exact Program.Keeps.of_run replies.answer
          (stage_keeps settings premium request)
          (Replies.answers_recorded replies)
      have hRun :
          run =
            ((staged.1.mapError Csi.NodeStage.Error.status).map
              fun _ => Csi.Node.Answer.staged,
              staged.2) :=
        Replies.run_procedure hRead
      rw [hRun, ← hEnds.notFound_iff]
      rcases staged.1 with error | result
      · constructor
        · rintro ⟨_, ⟨⟩, hCode⟩
          exact ⟨error, rfl, hCode⟩
        · rintro ⟨_, ⟨⟩, hCode⟩
          exact ⟨_, rfl, hCode⟩
      · exact iff_of_false nofun nofun

/-
  A node where all devices are there and blank, but not the
  program that makes filesystems.
-/
def toollessReplies : Replies
  | .mounter (.pathExists _), _ => .ok true
  | .mounter (.isFormatted _), _ => .ok false
  | .mounter (.format device _ _), _ =>
      .error (.format device.text (.ofNumber 2))
  | request, _ => (Memory.World.answer request {}).1

/- The device is there, and yet something was not found. -/
theorem missing_tool_answers_notFound :
    let device : Path := ⟨"/dev/disk/by-id/virtio-vol-1"⟩
    let message : Csi.NodeStage.Message :=
      { volumeId := "vol-1"
        stagingPath := "/staged"
        capability := some ⟨some 1, some (.mount "" [])⟩ }
    let run :=
      toollessReplies.run
        ((nodeAgent {} (.sequence .atStart .atEnd)).serve
          (fun _ => true) (.stage message)) []
    (∃ status, run.1 = .error status ∧ status.code = .notFound) ∧
      run.2 =
        [⟨.release, ()⟩,
          ⟨.mounter (.format device "ext4" []),
            .error (.format device.text (.ofNumber 2))⟩,
          ⟨.mounter (.isFormatted device), .ok false⟩,
          ⟨.acquire, ()⟩,
          ⟨.mounter (.pathExists device), .ok true⟩] :=
  ⟨⟨_, rfl, rfl⟩, rfl⟩

end Mounting

end Service

end BlockVolumes
