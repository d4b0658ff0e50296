import BlockVolumes.Csi.Attachment
import BlockVolumes.Csi.Growth
import BlockVolumes.Csi.Provisioning
import BlockVolumes.Csi.Staging
import Mathlib.Data.List.Forall2

/-
  What a request that was read from a message has in common
  with the message.

  Key definitions include:
    * `Csi.NodePublish.Request.Reads`

  Key theorems include:
    * `Csi.bind_eq_ok`
    * `Csi.mapM_eq_ok_iff`
    * `Csi.CreateVolume.Request.fields_of_ofMessage`
    * `Csi.CreateVolume.Request.name_of_ofMessage`
    * `Csi.PublishVolume.Request.ids_of_ofMessage`
    * `Csi.UnpublishVolume.Request.eq_of_check`
    * `Csi.ExpandVolume.Request.volumeId_of_ofMessage`
    * `Csi.NodeStage.Request.fields_of_ofMessage`
    * `Csi.NodeStage.Request.code_of_ofMessage_eq_error`
    * `Csi.NodePublish.Request.reads_of_ofMessage`
    * `Csi.NodePublish.Request.ofMessage_eq_ok`
-/

namespace BlockVolumes

namespace Csi

------------------------------------------------------------
-- Steps of Readers
------------------------------------------------------------

/- A reader that goes well goes well in both of its parts. -/
theorem bind_eq_ok
    {ε α β : Type}
    {first : Except ε α}
    {next : α → Except ε β}
    {b : β} :
    (first >>= next) = .ok b ↔
      ∃ a, first = .ok a ∧ next a = .ok b := by
  cases first <;> simp [bind, Except.bind]

/- A reader that fails, fails in its first part or later. -/
theorem bind_eq_error
    {ε α β : Type}
    {first : Except ε α}
    {next : α → Except ε β}
    {e : ε} :
    (first >>= next) = .error e ↔
      first = .error e ∨ ∃ a, first = .ok a ∧ next a = .error e := by
  cases first <;> simp [bind, Except.bind]

/- What a failure is turned into does not matter to a success. -/
theorem mapError_eq_ok
    {ε δ α : Type}
    {first : Except ε α}
    {turn : ε → δ}
    {a : α} :
    first.mapError turn = .ok a ↔ first = .ok a := by
  cases first <;> simp [Except.mapError]

/- A list is read if each of its members is. -/
theorem mapM_eq_ok_iff
    {ε α β : Type}
    {read : α → Except ε β}
    {as : List α}
    {bs : List β} :
    as.mapM read = .ok bs ↔
      List.Forall₂ (fun a b => read a = .ok b) as bs := by
  induction as generalizing bs with
  | nil => cases bs <;> simp [pure, Except.pure]
  | cons a as ih =>
      rw [List.mapM_cons, List.forall₂_cons_left_iff]
      simp only [bind_eq_ok, pure, Except.pure, Except.ok.injEq, ih]
      constructor
      · rintro ⟨b, hFirst, bs, hRest, rfl⟩
        exact ⟨b, bs, hFirst, hRest, rfl⟩
      · rintro ⟨b, bs, hFirst, hRest, rfl⟩
        exact ⟨b, hFirst, bs, hRest, rfl⟩

theorem required_eq_ok
    {value complaint text : String}
    (h : required value complaint = .ok text) :
    text = value := by
  unfold required at h
  split at h
  · simp at h
  · simpa using h.symm

theorem code_of_required_eq_error
    {value complaint : String}
    {status : Rpc.Status}
    (h : required value complaint = .error status) :
    status.code = .invalidArgument := by
  unfold required at h
  split at h
  · cases h
    rfl
  · exact nomatch h

theorem isEmpty_of_isAbsolute
    {value : String}
    (h : (Path.mk value).isAbsolute = true) :
    value.isEmpty = false := by
  rw [Bool.eq_false_iff]
  intro hEmpty
  rw [String.isEmpty_iff] at hEmpty
  subst hEmpty
  exact absurd h (by decide)

theorem code_of_existingDirectory_eq_error
    {isDirectory : Path → Bool}
    {value field : String}
    {status : Rpc.Status}
    (h : existingDirectory isDirectory value field = .error status) :
    status.code = .invalidArgument := by
  unfold existingDirectory at h
  split at h
  · cases h
    rfl
  · split at h
    · cases h
      rfl
    · exact nomatch h

theorem code_of_requiredCapability_eq_error
    {complaint : String}
    {message : Option CapabilityMessage}
    {status : Rpc.Status}
    (h : requiredCapability complaint message = .error status) :
    status.code = .invalidArgument := by
  cases message with
  | none =>
      cases h
      rfl
  | some message =>
      change Capability.ofMessage message = .error status at h
      unfold Capability.ofMessage at h
      split at h
      · cases h
        rfl
      · cases h
        rfl
      · exact nomatch h
      · exact nomatch h

theorem existingDirectory_eq_ok
    {isDirectory : Path → Bool}
    {value field : String}
    {path : Path}
    (h : existingDirectory isDirectory value field = .ok path) :
    path = ⟨value⟩ ∧ path.isAbsolute ∧ isDirectory path := by
  unfold existingDirectory at h
  split at h
  · exact nomatch h
  · next hAbsolute =>
      split at h
      · exact nomatch h
      · next hThere =>
          cases h
          exact ⟨rfl, by simpa using hAbsolute,
            by simpa using hThere⟩

theorem absolutePath_eq_ok
    {value field : String}
    {path : Path}
    (h : absolutePath value field = .ok path) :
    path = ⟨value⟩ ∧ path.isAbsolute := by
  unfold absolutePath at h
  simp only [bind_eq_ok] at h
  rcases h with ⟨text, hText, h⟩
  rw [required_eq_ok hText] at h
  split at h
  · next hAbsolute =>
      cases h
      exact ⟨rfl, hAbsolute⟩
  · exact nomatch h

------------------------------------------------------------
-- Requests to the Controller
------------------------------------------------------------

theorem CreateVolume.Request.fields_of_ofMessage
    {message : CreateVolume.Message}
    {request : CreateVolume.Request}
    (h : ofMessage message = .ok request) :
    request.name = message.name ∧
      request.parameters = message.parameters ∧
      request.requirement = message.requirement := by
  unfold ofMessage at h
  simp only [bind_eq_ok] at h
  rcases h with ⟨name, hName, range, _, h⟩
  have hEq := required_eq_ok hName
  split at h
  all_goals
    simp only [bind_eq_ok, pure, Except.pure, Except.ok.injEq] at h
    rcases h with ⟨_, _, _, _, rfl⟩
    exact ⟨hEq, rfl, rfl⟩

theorem CreateVolume.Request.name_of_ofMessage
    {message : CreateVolume.Message}
    {request : CreateVolume.Request}
    (h : ofMessage message = .ok request) :
    request.name = message.name :=
  (fields_of_ofMessage h).1

theorem PublishVolume.Request.ids_of_ofMessage
    {message : PublishVolume.Message}
    {request : PublishVolume.Request}
    (h : ofMessage message = .ok request) :
    request.volumeId = message.volumeId ∧
      request.nodeId = message.nodeId := by
  unfold ofMessage at h
  simp only [bind_eq_ok] at h
  rcases h with ⟨volumeId, hVolume, nodeId, hNode, h⟩
  have hVolumeId := required_eq_ok hVolume
  have hNodeId := required_eq_ok hNode
  split at h
  all_goals
    simp only [bind_eq_ok, pure, Except.pure, Except.ok.injEq] at h
    rcases h with ⟨_, _, rfl⟩
    exact ⟨hVolumeId, hNodeId⟩

theorem UnpublishVolume.Request.eq_of_check
    {request checked : UnpublishVolume.Request}
    (h : check request = .ok checked) :
    checked = request := by
  unfold check at h
  simp only [bind_eq_ok, pure, Except.pure, Except.ok.injEq] at h
  rcases h with ⟨_, _, _, _, rfl⟩
  rfl

theorem ExpandVolume.Request.volumeId_of_ofMessage
    {message : ExpandVolume.Message}
    {request : ExpandVolume.Request}
    (h : ofMessage message = .ok request) :
    request.volumeId = message.volumeId := by
  unfold ofMessage at h
  simp only [bind_eq_ok] at h
  rcases h with ⟨volumeId, hVolume, h⟩
  have hEq := required_eq_ok hVolume
  split at h
  all_goals
    simp only [bind_eq_ok, pure, Except.pure, Except.ok.injEq] at h
    rcases h with ⟨_, _, _, _, rfl⟩
    exact hEq

------------------------------------------------------------
-- Requests to a Node
------------------------------------------------------------

theorem NodeStage.Request.fields_of_ofMessage
    {isDirectory : Path → Bool}
    {message : NodeStage.Message}
    {request : NodeStage.Request}
    (h : ofMessage isDirectory message = .ok request) :
    request.volumeId = message.volumeId ∧
      request.context = message.context ∧
      request.stagingPath = ⟨message.stagingPath⟩ ∧
      request.stagingPath.isAbsolute ∧
      isDirectory request.stagingPath := by
  unfold ofMessage at h
  simp only [bind_eq_ok, pure, Except.pure, Except.ok.injEq] at h
  rcases h with ⟨volumeId, hVolume, staging, hStaging, path, hPath,
    _, _, rfl⟩
  have hText := required_eq_ok hStaging
  rcases existingDirectory_eq_ok hPath with ⟨rfl, hThere⟩
  exact ⟨required_eq_ok hVolume, rfl, congrArg Path.mk hText, hThere⟩

/- A request that is not read has a wrong field. -/
theorem NodeStage.Request.code_of_ofMessage_eq_error
    {isDirectory : Path → Bool}
    {message : NodeStage.Message}
    {status : Rpc.Status}
    (h : ofMessage isDirectory message = .error status) :
    status.code = .invalidArgument := by
  unfold ofMessage at h
  simp only [bind_eq_error, pure, Except.pure, reduceCtorEq, and_false,
    exists_false, or_false] at h
  rcases h with
    hVolume | ⟨_, _, hStaging | ⟨_, _, hPath | ⟨_, _, hCapability⟩⟩⟩
  · exact code_of_required_eq_error hVolume
  · exact code_of_required_eq_error hStaging
  · exact code_of_existingDirectory_eq_error hPath
  · exact code_of_requiredCapability_eq_error hCapability

/- What is read where nothing is wrong. -/
theorem NodeStage.Request.ofMessage_eq_ok
    {isDirectory : Path → Bool}
    {message : NodeStage.Message}
    {capability : Capability}
    (hVolume : message.volumeId.isEmpty = false)
    (hStaging : (Path.mk message.stagingPath).isAbsolute = true)
    (hThere : isDirectory ⟨message.stagingPath⟩ = true)
    (hCapability :
      ∀ complaint,
        requiredCapability complaint message.capability =
          .ok capability) :
    ofMessage isDirectory message =
      .ok
        { volumeId := message.volumeId
          publishContext := message.publishContext
          stagingPath := ⟨message.stagingPath⟩
          capability := capability
          secrets := message.secrets
          context := message.context } := by
  unfold ofMessage
  simp [required, existingDirectory, hVolume, hStaging, hThere,
    hCapability, isEmpty_of_isAbsolute hStaging, bind, Except.bind,
    pure, Except.pure]

theorem NodeUnstage.Request.path_of_ofMessage
    {message : NodeUnstage.Message}
    {request : NodeUnstage.Request}
    (h : ofMessage message = .ok request) :
    request.stagingPath = ⟨message.stagingPath⟩ ∧
      request.stagingPath.isAbsolute := by
  unfold ofMessage at h
  simp only [bind_eq_ok, pure, Except.pure, Except.ok.injEq] at h
  rcases h with ⟨_, _, path, hPath, rfl⟩
  exact absolutePath_eq_ok hPath

/- The paths of a request to publish, as they were read. -/
structure NodePublish.Request.Reads
    (isDirectory : Path → Bool)
    (message : NodePublish.Message)
    (request : NodePublish.Request) : Prop where
  readonly : request.readonly = message.readonly
  staging :
    ∀ staging, request.stagingPath = some staging →
      staging = ⟨message.stagingPath⟩ ∧ staging.isAbsolute ∧
        isDirectory staging
  target : request.targetPath = ⟨message.targetPath⟩
  absolute : request.targetPath.isAbsolute
  above :
    ∃ parent,
      request.targetPath.parent? = some parent ∧ isDirectory parent

theorem NodePublish.Request.reads_of_fields
    {isDirectory : Path → Bool}
    {message : NodePublish.Message}
    {request : NodePublish.Request}
    {field : String}
    (hReadonly : request.readonly = message.readonly)
    (hStaging :
      ∀ staging, request.stagingPath = some staging →
        staging = ⟨message.stagingPath⟩ ∧ staging.isAbsolute ∧
          isDirectory staging)
    (hTarget :
      absolutePath message.targetPath field = .ok request.targetPath)
    (hAbove :
      (request.targetPath.parent?.map isDirectory).getD false =
        true) :
    Reads isDirectory message request := by
  rcases absolutePath_eq_ok hTarget with ⟨hText, hAbsolute⟩
  refine ⟨hReadonly, hStaging, hText, hAbsolute, ?_⟩
  cases hParent : request.targetPath.parent? with
  | none => simp [hParent] at hAbove
  | some parent => exact ⟨parent, rfl, by simpa [hParent] using hAbove⟩

theorem NodePublish.Request.reads_of_ofMessage
    {isDirectory : Path → Bool}
    {message : NodePublish.Message}
    {request : NodePublish.Request}
    (h : ofMessage isDirectory message = .ok request) :
    Reads isDirectory message request := by
  unfold ofMessage at h
  simp only [bind_eq_ok] at h
  rcases h with ⟨_, _, h⟩
  split at h
  · simp only [bind_eq_ok] at h
    rcases h with ⟨staging?, hStaging, target, hTarget, h⟩
    split at h
    · next hAbove =>
        simp only [bind_eq_ok, pure, Except.pure,
          Except.ok.injEq] at h
        rcases h with ⟨_, _, _, _, rfl⟩
        cases hStaging
        exact reads_of_fields rfl nofun hTarget hAbove
    · exact nomatch h
  · simp only [bind_eq_ok] at h
    rcases h with ⟨staging?, hStaging, target, hTarget, h⟩
    split at h
    · next hAbove =>
        simp only [bind_eq_ok, pure, Except.pure,
          Except.ok.injEq] at h
        rcases h with ⟨_, _, _, _, rfl⟩
        refine reads_of_fields rfl ?_ hTarget hAbove
        rintro staging rfl
        cases hPath :
            existingDirectory isDirectory message.stagingPath
              "NodePublishVolumeRequest.staging_target_path" with
        | error status =>
            rw [hPath] at hStaging
            exact nomatch hStaging
        | ok path =>
            rw [hPath] at hStaging
            cases hStaging
            exact existingDirectory_eq_ok hPath
    · exact nomatch h

/- What is read where nothing is wrong. -/
theorem NodePublish.Request.ofMessage_eq_ok
    {isDirectory : Path → Bool}
    {message : NodePublish.Message}
    {parent : Path}
    {capability : Capability}
    (hVolume : message.volumeId.isEmpty = false)
    (hStaging : (Path.mk message.stagingPath).isAbsolute = true)
    (hThere : isDirectory ⟨message.stagingPath⟩ = true)
    (hTarget : (Path.mk message.targetPath).isAbsolute = true)
    (hParent : (Path.mk message.targetPath).parent? = some parent)
    (hAbove : isDirectory parent = true)
    (hCapability :
      ∀ complaint,
        requiredCapability complaint message.capability =
          .ok capability) :
    ofMessage isDirectory message =
      .ok
        { volumeId := message.volumeId
          publishContext := message.publishContext
          stagingPath := some ⟨message.stagingPath⟩
          targetPath := ⟨message.targetPath⟩
          capability := capability
          readonly := message.readonly
          secrets := message.secrets
          context := message.context } := by
  unfold ofMessage
  simp [required, existingDirectory, absolutePath, hVolume,
    hStaging, hThere, hTarget, hParent, hAbove, hCapability,
    isEmpty_of_isAbsolute hStaging, isEmpty_of_isAbsolute hTarget,
    bind, Except.bind, Except.map, pure, Except.pure]

theorem NodeUnpublish.Request.path_of_ofMessage
    {message : NodeUnpublish.Message}
    {request : NodeUnpublish.Request}
    (h : ofMessage message = .ok request) :
    request.targetPath = ⟨message.targetPath⟩ ∧
      request.targetPath.isAbsolute := by
  unfold ofMessage at h
  simp only [bind_eq_ok, pure, Except.pure, Except.ok.injEq] at h
  rcases h with ⟨_, _, path, hPath, rfl⟩
  exact absolutePath_eq_ok hPath

end Csi

end BlockVolumes
