import BlockVolumes.Memory.World
import BlockVolumes.Proofs.Csi.Reading
import BlockVolumes.Proofs.Transitions.Looks
import BlockVolumes.Service.Provisioner

/-
  The verdict on the capabilities of a volume. Either all are
  confirmed, in the very words of the message that asks for
  them, or nothing is, and the first one that is not supported
  is the reason.

  Key definitions include:
    * `Csi.CapabilityMessage.IsWhole`
    * `Csi.CapabilityMessage.IsSupported`
    * `Csi.CapabilityMessage.objection`
    * `Csi.ValidateCapabilities.FirstObjection`
    * `Service.Reporting.Judged`

  Key theorems include:
    * `Csi.Capability.toMessage_of_ofMessage`
    * `Csi.ValidateCapabilities.map_toMessage_of_isSupported`
    * `Service.Creation.checkAll_of_not_isSupported`
    * `Service.Reporting.validation_echoes_or_explains`
-/

namespace BlockVolumes

namespace Csi

------------------------------------------------------------
-- Capabilities as Messages Carry Them
------------------------------------------------------------

namespace CapabilityMessage

/- Whether both parts of a capability are there. -/
structure IsWhole
    (message : CapabilityMessage) : Prop where
  mode : message.mode ≠ none
  access : message.access ≠ none

instance (message : CapabilityMessage) :
    Decidable message.IsWhole :=
  decidable_of_iff (message.mode ≠ none ∧ message.access ≠ none)
    ⟨fun h => ⟨h.1, h.2⟩, fun h => ⟨h.mode, h.access⟩⟩

/- Whether a capability asks for a filesystem with one writer. -/
def IsSupported
    (message : CapabilityMessage) : Prop :=
  message.mode = some AccessMode.singleNodeWriter.number ∧
    ∃ filesystem flags,
      message.access = some (.mount filesystem flags)

/-
  What there is to say against a capability that is not
  supported. Devices are refused before the mode is looked at.
-/
def objection
    (message : CapabilityMessage) : String :=
  match message.access with
  | some .block => "Raw block volumes are not supported"
  | _ =>
      "Access mode " ++
        (AccessMode.ofNumber (message.mode.getD 0)).name ++
        " is not supported, only SingleNodeWriter is"

end CapabilityMessage

namespace Capability

variable {message : CapabilityMessage}
variable {capability : Capability}

theorem ofNumber_eq_singleNodeWriter_iff
    {number : Int} :
    AccessMode.ofNumber number = .singleNodeWriter ↔
      number = AccessMode.singleNodeWriter.number := by
  constructor
  · intro h
    unfold AccessMode.ofNumber at h
    split at h <;> first | rfl | exact nomatch h
  · rintro rfl
    rfl

theorem exists_ofMessage_eq_ok
    (h : message.IsWhole) :
    ∃ capability, ofMessage message = .ok capability := by
  rcases message with ⟨_ | mode, access⟩
  · exact absurd rfl h.mode
  · rcases access with _ | _ | ⟨filesystem, flags⟩
    · exact absurd rfl h.access
    · exact ⟨_, rfl⟩
    · exact ⟨_, rfl⟩

/- An empty filesystem type is none, and is written as empty. -/
theorem getD_filesystem_new
    (filesystem : String)
    (flags : List String) :
    (MountSpec.new (some filesystem) flags).filesystem.getD "" =
      filesystem := by
  by_cases hEmpty : filesystem = ""
  · subst hEmpty
    rfl
  · simp [MountSpec.new, Option.filter, hEmpty]

/-
  A capability that was read is written as it was, but for a
  mode that is not known, which becomes zero.
-/
theorem toMessage_of_ofMessage
    (h : ofMessage message = .ok capability) :
    capability.toMessage =
      { message with
        mode :=
          message.mode.map fun mode =>
            (AccessMode.ofNumber mode).number } := by
  rcases message with ⟨_ | mode, access⟩
  · exact nomatch h
  · rcases access with _ | _ | ⟨filesystem, flags⟩
    · exact nomatch h
    · cases h
      rfl
    · cases h
      have hFilesystem := getD_filesystem_new filesystem flags
      change
        CapabilityMessage.mk _ (some (.mount
          ((MountSpec.new (some filesystem) flags).filesystem.getD "")
          flags)) = _
      rw [hFilesystem]
      rfl

/- A supported capability is written as it was. -/
theorem toMessage_of_isSupported
    (h : ofMessage message = .ok capability)
    (hSupported : message.IsSupported) :
    capability.toMessage = message := by
  rcases message with ⟨mode, access⟩
  rcases hSupported with ⟨rfl, _⟩
  rw [toMessage_of_ofMessage h]
  rfl

/- The check of a capability, told by its message. -/
theorem check_of_isSupported
    (h : ofMessage message = .ok capability)
    (hSupported : message.IsSupported) :
    capability.check = .ok () := by
  rcases message with ⟨mode, access⟩
  rcases hSupported with ⟨rfl, filesystem, flags, rfl⟩
  cases h
  rfl

theorem check_of_not_isSupported
    (h : ofMessage message = .ok capability)
    (hSupported : ¬ message.IsSupported) :
    ∃ status,
      capability.check = .error status ∧
        status.message = message.objection := by
  rcases message with ⟨_ | mode, access⟩
  · exact nomatch h
  · rcases access with _ | _ | ⟨filesystem, flags⟩
    · exact nomatch h
    · cases h
      exact ⟨_, rfl, rfl⟩
    · cases h
      have hMode : AccessMode.ofNumber mode ≠ .singleNodeWriter := by
        intro hWriter
        rw [ofNumber_eq_singleNodeWriter_iff] at hWriter
        subst hWriter
        exact hSupported ⟨rfl, filesystem, flags, rfl⟩
      exact ⟨_, if_neg hMode, rfl⟩

end Capability

------------------------------------------------------------
-- Lists of Capabilities
------------------------------------------------------------

namespace ValidateCapabilities

/-
  Whether a text is the objection to the first capability of a
  list that is not supported.
-/
def FirstObjection
    (messages : List CapabilityMessage)
    (text : String) : Prop :=
  ∃ before first after,
    messages = before ++ first :: after ∧
      (∀ message ∈ before, message.IsSupported) ∧
      ¬ first.IsSupported ∧
      text = first.objection

variable {message : CapabilityMessage}
variable {messages : List CapabilityMessage}
variable {text : String}

theorem FirstObjection.cons
    (hSupported : message.IsSupported)
    (h : FirstObjection messages text) :
    FirstObjection (message :: messages) text := by
  rcases h with ⟨before, first, after, rfl, hBefore, hFirst, hText⟩
  exact ⟨message :: before, first, after, rfl,
    List.forall_mem_cons.mpr ⟨hSupported, hBefore⟩, hFirst, hText⟩

/- Whole capabilities are read, in order. -/
theorem exists_ofMessages_eq_ok
    (h : ∀ message ∈ messages, message.IsWhole) :
    ∃ capabilities,
      Capability.ofMessages messages = .ok capabilities := by
  induction messages with
  | nil => exact ⟨[], rfl⟩
  | cons message messages ih =>
      rw [List.forall_mem_cons] at h
      rcases Capability.exists_ofMessage_eq_ok h.1 with
        ⟨capability, hFirst⟩
      rcases ih h.2 with ⟨capabilities, hRest⟩
      refine ⟨capability :: capabilities, ?_⟩
      rw [Capability.ofMessages, mapM_eq_ok_iff] at hRest ⊢
      exact .cons hFirst hRest

/- Where all capabilities are supported, all are echoed. -/
theorem map_toMessage_of_isSupported
    {capabilities : List Capability}
    (hRead : Capability.ofMessages messages = .ok capabilities)
    (hSupported : ∀ message ∈ messages, message.IsSupported) :
    capabilities.map Capability.toMessage = messages := by
  rw [Capability.ofMessages, mapM_eq_ok_iff] at hRead
  induction hRead with
  | nil => rfl
  | cons hFirst _ ih =>
      rw [List.forall_mem_cons] at hSupported
      rw [List.map_cons, ih hSupported.2,
        Capability.toMessage_of_isSupported hFirst hSupported.1]

end ValidateCapabilities

end Csi

namespace Service

open Csi (Capability CapabilityMessage mapM_eq_ok_iff)
open Csi.ValidateCapabilities (FirstObjection Message)
open Host (Record Replies)

variable {messages : List CapabilityMessage}
variable {capabilities : List Capability}

theorem Creation.checkAll_of_isSupported
    (hRead : Capability.ofMessages messages = .ok capabilities)
    (hSupported : ∀ message ∈ messages, message.IsSupported) :
    checkAll capabilities = .ok () := by
  rw [Capability.ofMessages, mapM_eq_ok_iff] at hRead
  induction hRead with
  | nil => rfl
  | cons hFirst _ ih =>
      rw [List.forall_mem_cons] at hSupported
      rw [checkAll,
        Capability.check_of_isSupported hFirst hSupported.1]
      exact ih hSupported.2

/- The check of a list fails at the first that it can. -/
theorem Creation.checkAll_of_not_isSupported
    (hRead : Capability.ofMessages messages = .ok capabilities)
    (hSupported : ¬ ∀ message ∈ messages, message.IsSupported) :
    ∃ status,
      checkAll capabilities = .error status ∧
        FirstObjection messages status.message := by
  rw [Capability.ofMessages, mapM_eq_ok_iff] at hRead
  induction hRead with
  | nil => exact absurd nofun hSupported
  | @cons message capability messages _ hFirst _ ih =>
      by_cases hHere : message.IsSupported
      · have hRest : ¬ ∀ other ∈ messages, other.IsSupported :=
          fun hRest =>
            hSupported (List.forall_mem_cons.mpr ⟨hHere, hRest⟩)
        rcases ih hRest with ⟨status, hCheck, hObjection⟩
        refine ⟨status, ?_, hObjection.cons hHere⟩
        rw [checkAll, Capability.check_of_isSupported hFirst hHere]
        exact hCheck
      · rcases Capability.check_of_not_isSupported hFirst hHere with
          ⟨status, hCheck, hText⟩
        refine ⟨status, ?_, [], message, messages, rfl, nofun,
          hHere, hText⟩
        rw [checkAll, hCheck]
        rfl

------------------------------------------------------------
-- The Verdict
------------------------------------------------------------

namespace Reporting

/-
  What a message about a volume that is there is answered. The
  confirmed part is an echo of the message, and stands alone.
-/
structure Judged
    (message : Message)
    (answer : Csi.ValidateCapabilities.Answer) : Prop where
  confirmed_iff :
    answer.confirmed.isSome ↔
      ∀ capability ∈ message.capabilities, capability.IsSupported
  echo :
    ∀ confirmation, answer.confirmed = some confirmation →
      confirmation =
          { context := message.context
            capabilities := message.capabilities
            parameters := message.parameters } ∧
        answer.message = ""
  reason :
    answer.confirmed = none →
      FirstObjection message.capabilities answer.message

theorem judged_of_read
    {message : Message}
    (volumeId : String)
    (secrets : Dictionary)
    (hRead :
      Capability.ofMessages message.capabilities =
        .ok capabilities) :
    Judged message
      (judge
        { volumeId := volumeId
          context := message.context
          capabilities := capabilities
          parameters := message.parameters
          secrets := secrets }).toAnswer := by
  by_cases hSupported :
      ∀ capability ∈ message.capabilities, capability.IsSupported
  · have hEcho :=
      Csi.ValidateCapabilities.map_toMessage_of_isSupported hRead
        hSupported
    rw [judge, Creation.checkAll_of_isSupported hRead hSupported]
    refine ⟨iff_of_true rfl hSupported, ?_, nofun⟩
    rintro _ ⟨⟩
    exact ⟨by rw [hEcho]; rfl, rfl⟩
  · rcases Creation.checkAll_of_not_isSupported hRead hSupported with
      ⟨status, hCheck, hObjection⟩
    rw [judge, hCheck]
    exact ⟨iff_of_false nofun hSupported, nofun, fun _ => hObjection⟩

theorem run_validate
    {replies : Replies}
    {past : Record}
    {request : Csi.ValidateCapabilities.Request}
    {disk : Disk}
    (hDisk :
      replies (.backend (.get request.volumeId)) past = .ok disk) :
    replies.run (validate request) past =
      (.ok (judge request),
        ⟨.backend (.get request.volumeId), .ok disk⟩ :: past) :=
  Replies.run_bind_of_ok
    (Attaching.run_getVolume_of_ok
      Csi.ValidateCapabilities.Error.volumeMissing hDisk) _

/-
  The validation of capabilities of a volume that is there, for
  a message with nothing missing, looks at the volume and then
  either echoes the message or explains why it does not.
-/
theorem validation_echoes_or_explains
    (settings : Settings)
    (replies : Replies)
    (past : Record)
    (message : Message)
    (disk : Disk)
    (hVolume : message.volumeId.isEmpty = false)
    (hSome : message.capabilities ≠ [])
    (hWhole :
      ∀ capability ∈ message.capabilities, capability.IsWhole)
    (hDisk :
      replies (.backend (.get message.volumeId)) past = .ok disk) :
    ∃ answer,
      replies.run ((provisioner settings).serve (.validate message))
          past =
        (.ok (.validated answer),
          ⟨.backend (.get message.volumeId), .ok disk⟩ :: past) ∧
      Judged message answer := by
  rcases Csi.ValidateCapabilities.exists_ofMessages_eq_ok hWhole with
    ⟨capabilities, hRead⟩
  have hRequest :
      Csi.ValidateCapabilities.Request.ofMessage message =
        .ok
          { volumeId := message.volumeId
            context := message.context
            capabilities := capabilities
            parameters := message.parameters
            secrets := message.secrets } := by
    unfold Csi.ValidateCapabilities.Request.ofMessage
    simp [Csi.required, hVolume, hSome, hRead, bind, Except.bind,
      pure, Except.pure]
  refine ⟨_, ?_, judged_of_read message.volumeId message.secrets
    hRead⟩
  refine (Replies.run_procedure hRequest).trans ?_
  change
    (((replies.run (validate _) past).1.mapError _).map _,
      (replies.run (validate _) past).2) = _
  rw [run_validate hDisk]
  rfl

/- A filesystem, a mode that is not known, and a device. -/
theorem validation_of_three_capabilities :
    let message : Message :=
      { volumeId := "vol-1"
        context := [("a", "b")]
        capabilities :=
          [⟨some 1, some (.mount "" ["ro"])⟩,
            ⟨some 7, some (.mount "ext4" [])⟩,
            ⟨some 1, some .block⟩] }
    let disk : Disk :=
      ⟨"vol-1", "pvc-1", 10, .inUse, "cloud_ssd", "zone-a", [], 0, []⟩
    let replies : Replies := fun request _ =>
      match request with
      | .backend (.get _) => .ok disk
      | request => (Memory.World.answer request {}).1
    (∀ capability ∈ message.capabilities, capability.IsWhole) ∧
      ∃ answer,
        replies.run ((provisioner {}).serve (.validate message)) [] =
          (.ok (.validated answer),
            [⟨.backend (.get "vol-1"), .ok disk⟩]) ∧
        Judged message answer ∧
        answer.message =
          "Access mode Unknown is not supported, only " ++
            "SingleNodeWriter is" := by
  intro message disk replies
  have hWhole :
      ∀ capability ∈ message.capabilities, capability.IsWhole := by
    decide
  rcases validation_echoes_or_explains {} replies [] message disk
    (by decide) nofun hWhole rfl with ⟨answer, hRun, hJudged⟩
  have hAnswer :
      replies.run ((provisioner {}).serve (.validate message)) [] =
        (.ok (.validated
          (judge
            { volumeId := "vol-1"
              context := [("a", "b")]
              capabilities :=
                [⟨.singleNodeWriter, .mount ⟨none, ["ro"]⟩⟩,
                  ⟨.unknown, .mount ⟨some "ext4", []⟩⟩,
                  ⟨.singleNodeWriter, .block⟩]
              parameters := []
              secrets := [] }).toAnswer), _) :=
    rfl
  rw [hAnswer] at hRun
  cases hRun
  exact ⟨hWhole, _, hAnswer, hJudged, by decide⟩

end Reporting

end Service

end BlockVolumes
