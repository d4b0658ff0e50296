import BlockVolumes.Proofs.Attaching.Ownership
import BlockVolumes.Proofs.Csi.Reading
import BlockVolumes.Proofs.Memory.World
import BlockVolumes.Service.Provisioner

/-
  Publishing and unpublishing volumes of a backend in memory
  are the moves of a machine in which every volume has at most
  one owner.

  Key definitions include:
    * `Ownership.Asks`
    * `Ownership.read`
    * `Ownership.serveAll`

  Key theorems include:
    * `Ownership.publish_ends`
    * `Ownership.unpublish_ends`
    * `Ownership.serve_ends`
    * `Ownership.serveAll_refines`
-/

namespace BlockVolumes

namespace Ownership

open Memory (Backend World)
open Memory.World (Ends)
open Service

------------------------------------------------------------
-- Messages as Moves
------------------------------------------------------------

/-
  Whether a message asks for a move: it can be read, volumes
  of its kind are supported, and the volume is there.
-/
inductive Asks
    (backend : Backend) :
    Csi.Controller.Message → Move → Prop where
  | publish
      {message : Csi.PublishVolume.Message}
      {request : Csi.PublishVolume.Request}
      {disk : Disk}
      (hRead :
        Csi.PublishVolume.Request.ofMessage message = .ok request)
      (hWritable : request.readonly = false)
      (hSupported : request.capability.check = .ok ())
      (hDisk : backend.disk? message.volumeId = some disk) :
      Asks backend (.publish message)
        (.publish message.volumeId message.nodeId)
  | unpublish
      {request : Csi.UnpublishVolume.Request}
      {disk : Disk}
      (hRead : request.check = .ok request)
      (hDisk : backend.disk? request.volumeId = some disk) :
      Asks backend (.unpublish request)
        (.unpublish request.volumeId request.nodeId)

/- An answer as a reply of the machine. -/
def read :
    Except Rpc.Status Csi.Controller.Answer → Option Reply
  | .ok (.published [(key, mountPoint)]) =>
      if key = Attaching.deviceKey then some (.published mountPoint)
      else none
  | .ok .unpublished => some .unpublished
  | .error status => some (.refused status.code)
  | _ => none

/- The answers to messages that are served one by one. -/
def serveAll
    (settings : Settings) :
    List Csi.Controller.Message → World →
      List (Except Rpc.Status Csi.Controller.Answer) × World
  | [], world => ([], world)
  | message :: messages, world =>
      let (answer, world) :=
        World.run ((provisioner settings).serve message) world
      let (answers, world) := serveAll settings messages world
      (answer :: answers, world)

------------------------------------------------------------
-- Looking at a Volume
------------------------------------------------------------

variable {base : Backend}
variable {owners : Owners}
variable {volumeId : String}
variable {disk : Disk}
variable {world : World}

theorem getVolume_ends
    {ε : Type}
    [RpcError ε]
    (missing : String → ε)
    (hPlain : base.Plain)
    (hDisk : base.disk? volumeId = some disk)
    (hWorld : world.backend = base.assign owners) :
    Ends (Attaching.getVolume missing volumeId) world
      (.ok (disk.heldBy (owners volumeId)))
      (base.assign owners) := by
  have hGet :
      world.backend.answer (.get volumeId) =
        (.ok (disk.heldBy (owners volumeId)),
          base.assign owners) := by
    rw [hWorld]
    exact hPlain.answer_get hDisk
  refine Ends.ask hGet fun after hAfter => ?_
  exact Ends.done hAfter

/- A volume that is as wanted is not waited for. -/
theorem untilMet_ends
    (polling : Polling)
    (expected : String)
    {wanted : Disk → Bool}
    (hPlain : base.Plain)
    (hDisk : base.disk? volumeId = some disk)
    (hWorld : world.backend = base.assign owners)
    (hWanted : wanted (disk.heldBy (owners volumeId)) = true) :
    Ends (Wait.untilMet polling volumeId expected wanted) world
      (.ok (disk.heldBy (owners volumeId)))
      (base.assign owners) := by
  have hGet :
      world.backend.answer (.get volumeId) =
        (.ok (disk.heldBy (owners volumeId)),
          base.assign owners) := by
    rw [hWorld]
    exact hPlain.answer_get hDisk
  have hMet :
      Wait.met wanted (.ok (disk.heldBy (owners volumeId))) =
        some (disk.heldBy (owners volumeId)) := by
    rw [Wait.met, if_pos hWanted]
  have hPoll :
      ∀ interval left,
        Ends (Wait.poll volumeId wanted interval left) world
          (.ok (some (disk.heldBy (owners volumeId))))
          (base.assign owners) := by
    intro interval left
    cases left with
    | zero =>
        refine Ends.ask hGet fun after hAfter => ?_
        dsimp only [Program.done_bind]
        rw [hMet]
        exact Ends.done hAfter
    | succ left =>
        refine Ends.ask hGet fun after hAfter => ?_
        dsimp only [Program.done_bind]
        rw [hMet]
        exact Ends.done hAfter
  refine (hPoll _ _).bind fun after hAfter => ?_
  exact Ends.done hAfter

------------------------------------------------------------
-- Publishing
------------------------------------------------------------

theorem getLimits_ends_of_missing
    {nodeId : String}
    (diskType : String)
    (hPlain : base.Plain)
    (hMissing : base.instance? nodeId = none)
    (hWorld : world.backend = base.assign owners) :
    Ends (Attaching.getLimits nodeId diskType) world
      (.error (.nodeMissing nodeId)) (base.assign owners) := by
  have hCheck :
      world.backend.answer (.checkAttach nodeId diskType) =
        (.error (.notFound nodeId), base.assign owners) := by
    rw [hWorld, hPlain.answer_checkAttach, Backend.requireInstance,
      hMissing]
    rfl
  refine Ends.ask hCheck fun after hAfter => ?_
  exact Ends.failed hAfter

/- What limits the attachments to an instance. -/
def limitsOf
    (inst : Memory.Instance)
    (diskType : String) : Attaching.Limits :=
  ⟨⟨inst.info.diskTypes.contains diskType,
    inst.info.volumeLimit⟩, inst.attached⟩

theorem getLimits_ends
    {nodeId : String}
    (diskType : String)
    {inst : Memory.Instance}
    (hPlain : base.Plain)
    (hInstance : base.instance? nodeId = some inst)
    (hWorld : world.backend = base.assign owners) :
    Ends (Attaching.getLimits nodeId diskType) world
      (.ok (limitsOf inst diskType)) (base.assign owners) := by
  have hCheck :
      world.backend.answer (.checkAttach nodeId diskType) =
        (.ok
          ⟨inst.info.diskTypes.contains diskType,
            inst.info.volumeLimit⟩, base.assign owners) := by
    rw [hWorld, hPlain.answer_checkAttach, Backend.requireInstance,
      hInstance]
    rfl
  refine Ends.ask hCheck fun between hBetween => ?_
  have hAttached :
      between.backend.answer (.attachedVolumes nodeId) =
        (.ok inst.attached, base.assign owners) := by
    rw [hBetween, hPlain.answer_attachedVolumes,
      Backend.requireInstance, hInstance]
    rfl
  refine Ends.ask hAttached fun after hAfter => ?_
  exact Ends.done hAfter

/- Limits that leave room for one volume more. -/
def HasRoom
    (limits : Attaching.Limits)
    (volumeId : String) : Prop :=
  limits.check.supported = true ∧
    (limits.attached.contains volumeId = true ∨
      limits.attached.length < limits.check.volumeLimit)

theorem hasRoom_iff
    {inst : Memory.Instance}
    {diskType : String} :
    HasRoom (limitsOf inst diskType) volumeId ↔
      admits inst volumeId diskType = true := by
  simp only [HasRoom, limitsOf, admits, Bool.and_eq_true,
    Bool.or_eq_true, decide_eq_true_eq]

theorem checkLimits_of_room
    {limits : Attaching.Limits}
    (nodeId : String)
    (h : HasRoom limits volumeId) :
    Attaching.checkLimits nodeId disk volumeId limits = .ok () := by
  rcases h with ⟨hSupported, hRoom⟩
  have hBelow :
      ¬ ((!limits.attached.contains volumeId) = true ∧
        limits.check.volumeLimit ≤ limits.attached.length) := by
    rintro ⟨hOther, hFull⟩
    rcases hRoom with hListed | hFree
    · rw [hListed] at hOther
      exact Bool.false_ne_true hOther
    · omega
  unfold Attaching.checkLimits
  rw [hSupported, if_neg (by decide), if_neg hBelow]

theorem checkLimits_of_no_room
    {limits : Attaching.Limits}
    (nodeId : String)
    (h : ¬ HasRoom limits volumeId) :
    ∃ detail,
      Attaching.checkLimits nodeId disk volumeId limits =
        .error (.volumeLimit detail) := by
  unfold Attaching.checkLimits
  split
  · exact ⟨_, rfl⟩
  · next hSupported =>
      split
      · exact ⟨_, rfl⟩
      · next hBelow =>
          refine absurd ⟨by simpa using hSupported, ?_⟩ h
          by_cases hListed :
              limits.attached.contains volumeId = true
          · exact Or.inl hListed
          · right
            have hNotFull :
                ¬ limits.check.volumeLimit ≤
                  limits.attached.length := by
              intro hFull
              exact hBelow ⟨by simpa using hListed, hFull⟩
            omega

theorem refusal?_of_instance
    {nodeId : String}
    {inst : Memory.Instance}
    (hDisk : base.disk? volumeId = some disk)
    (hInstance : base.instance? nodeId = some inst) :
    refusal? base volumeId nodeId =
      if admits inst volumeId disk.diskType then none
      else some .resourceExhausted := by
  rw [refusal?, hInstance, hDisk]

section Limits

variable {nodeId : String}
variable {α : Type}
variable {rest : Program Host Csi.PublishVolume.Error α}

/- A node that does not admit the volume is an error. -/
theorem refused_ends
    (hPlain : base.Plain)
    (hDisk : base.disk? volumeId = some disk)
    {code : Rpc.Code}
    (hRefusal : refusal? base volumeId nodeId = some code) :
    ∃ error : Csi.PublishVolume.Error,
      error.status.code = code ∧
        ∀ {world : World},
          world.backend = base.assign owners →
            Ends
              ((Attaching.getLimits nodeId
                (disk.heldBy none).diskType).bind
                fun limits =>
                  (Program.ofExcept (Attaching.checkLimits nodeId
                    (disk.heldBy none) volumeId limits)).bind
                      fun _ => rest)
              world (.error error) (base.assign owners) := by
  cases hInstance : base.instance? nodeId with
  | none =>
      refine ⟨.nodeMissing nodeId, ?_, fun hWorld => ?_⟩
      · rw [refusal?, hInstance] at hRefusal
        exact Option.some.inj hRefusal
      · exact (getLimits_ends_of_missing _ hPlain hInstance
          hWorld).bind_error
  | some inst =>
      rw [refusal?_of_instance hDisk hInstance] at hRefusal
      split at hRefusal
      · exact nomatch hRefusal
      · next hFull =>
          have hNoRoom :
              ¬ HasRoom (limitsOf inst (disk.heldBy none).diskType)
                volumeId :=
            fun hRoom => hFull (hasRoom_iff.mp hRoom)
          rcases checkLimits_of_no_room nodeId hNoRoom with
            ⟨detail, hCheck⟩
          refine ⟨.volumeLimit detail, Option.some.inj hRefusal,
            fun hWorld => ?_⟩
          refine (getLimits_ends _ hPlain hInstance hWorld).bind
            fun after hAfter => ?_
          rw [hCheck]
          exact Ends.failed hAfter

/- A node that admits the volume goes on with the rest. -/
theorem admitted_ends
    {result : Except Csi.PublishVolume.Error α}
    {backend : Backend}
    (hPlain : base.Plain)
    (hDisk : base.disk? volumeId = some disk)
    (hRefusal : refusal? base volumeId nodeId = none)
    (hWorld : world.backend = base.assign owners)
    (hRest :
      ∀ after : World, after.backend = base.assign owners →
        Ends rest after result backend) :
    Ends
      ((Attaching.getLimits nodeId
        (disk.heldBy none).diskType).bind fun limits =>
          (Program.ofExcept (Attaching.checkLimits nodeId
            (disk.heldBy none) volumeId limits)).bind
              fun _ => rest)
      world result backend := by
  cases hInstance : base.instance? nodeId with
  | none =>
      rw [refusal?, hInstance] at hRefusal
      exact nomatch hRefusal
  | some inst =>
      rw [refusal?_of_instance hDisk hInstance] at hRefusal
      split at hRefusal
      · next hAdmits =>
          refine (getLimits_ends _ hPlain hInstance hWorld).bind
            fun after hAfter => ?_
          have hRoom :
              HasRoom (limitsOf inst (disk.heldBy none).diskType)
                volumeId := hasRoom_iff.mpr hAdmits
          rw [checkLimits_of_room nodeId hRoom]
          exact hRest after hAfter
      · exact nomatch hRefusal

end Limits

/- A volume without an owner gets one. -/
theorem attach_ends
    (settings : Settings)
    (nodeId : String)
    (hPlain : base.Plain)
    (hDisk : base.disk? volumeId = some disk)
    (hWorld : world.backend = base.assign owners) :
    Ends
      (Attaching.attach settings volumeId nodeId
        (disk.heldBy none))
      world (.ok ())
      (base.assign
        (Function.update owners volumeId
          (some ⟨nodeId, device⟩))) := by
  have hAttach :
      world.backend.answer (.attach volumeId nodeId) =
        (.ok (),
          base.assign
            (Function.update owners volumeId
              (some ⟨nodeId, device⟩))) := by
    rw [hWorld]
    exact hPlain.answer_attach hDisk nodeId
  refine (Ends.mapError (Ends.call hAttach)).bind
    fun between hBetween => ?_
  refine Ends.sleep fun after hAfter => ?_
  exact Ends.done (hAfter.trans hBetween)

theorem attachment?_of_owner
    (owner : Disk.Attachment) :
    (disk.heldBy (some owner)).attachment? owner.instanceId =
      some owner := by
  simp [Disk.attachment?, Disk.heldBy]

theorem attachment?_of_other
    {owner : Disk.Attachment}
    {nodeId : String}
    (hOther : owner.instanceId ≠ nodeId) :
    (disk.heldBy (some owner)).attachment? nodeId = none := by
  simp [Disk.attachment?, Disk.heldBy, hOther]

/- The owner is told the device of its volume. -/
theorem awaitAttachment_ends
    (settings : Settings)
    {nodeId mountPoint : String}
    (hPlain : base.Plain)
    (hDisk : base.disk? volumeId = some disk)
    (hOwner : owners volumeId = some ⟨nodeId, mountPoint⟩)
    (hWorld : world.backend = base.assign owners) :
    Ends (Attaching.awaitAttachment settings volumeId nodeId)
      world (.ok [(Attaching.deviceKey, mountPoint)])
      (base.assign owners) := by
  have hInUse :
      (disk.heldBy (owners volumeId)).status == .inUse := by
    rw [hOwner]
    rfl
  refine (Ends.mapError (untilMet_ends _ _ hPlain hDisk hWorld
    hInUse)).bind fun after hAfter => ?_
  have hFound :
      (disk.heldBy (owners volumeId)).attachment? nodeId =
        some ⟨nodeId, mountPoint⟩ := by
    rw [hOwner]
    exact attachment?_of_owner ⟨nodeId, mountPoint⟩
  rw [hFound]
  exact Ends.done hAfter

/- A volume without an owner has to be attached. -/
theorem assess_of_free
    (nodeId : String) :
    Attaching.assess (disk.heldBy none) nodeId = .toAttach :=
  rfl

theorem assess_of_owner
    (owner : Disk.Attachment) :
    Attaching.assess (disk.heldBy (some owner)) owner.instanceId =
      .published owner := by
  rw [Attaching.assess, attachment?_of_owner]
  rfl

theorem assess_of_other
    {owner : Disk.Attachment}
    {nodeId : String}
    (hOther : owner.instanceId ≠ nodeId) :
    Attaching.assess (disk.heldBy (some owner)) nodeId =
      .elsewhere [owner.instanceId] := by
  rw [Attaching.assess, attachment?_of_other hOther]
  rfl

section Publish

variable (settings : Settings)
variable {request : Csi.PublishVolume.Request}
variable (hWritable : request.readonly = false)
variable (hSupported : request.capability.check = .ok ())
variable (hPlain : base.Plain)
variable (hDisk : base.disk? request.volumeId = some disk)
variable (hWorld : world.backend = base.assign owners)

include hWritable hSupported hPlain hDisk hWorld

theorem publish_ends_of_owner
    {owner : Disk.Attachment}
    (hOwner : owners request.volumeId = some owner)
    (hSame : owner.instanceId = request.nodeId) :
    Ends (Attaching.publish settings request) world
      (.ok (Attaching.describe owner)) (base.assign owners) := by
  have hVolume :=
    getVolume_ends Csi.PublishVolume.Error.volumeMissing hPlain
      hDisk hWorld
  unfold Attaching.publish
  rw [hWritable, hSupported]
  refine hVolume.bind fun after hAfter => ?_
  rw [hOwner, ← hSame, assess_of_owner]
  exact Ends.done hAfter

/- Another owner loses the volume, and the node waits. -/
theorem publish_ends_of_other
    {owner : Disk.Attachment}
    (hOwner : owners request.volumeId = some owner)
    (hOther : owner.instanceId ≠ request.nodeId) :
    ∃ detail,
      Ends (Attaching.publish settings request) world
        (.error (.publishedElsewhere detail))
        (base.assign
          (Function.update owners request.volumeId none)) := by
  have hVolume :=
    getVolume_ends Csi.PublishVolume.Error.volumeMissing hPlain
      hDisk hWorld
  unfold Attaching.publish
  rw [hWritable, hSupported]
  apply Exists.intro
  refine hVolume.bind fun between hBetween => ?_
  rw [hOwner, assess_of_other hOther]
  have hDetach :
      between.backend.answer
          (.detach request.volumeId owner.instanceId) =
        (.ok (),
          base.assign
            (Function.update owners request.volumeId none)) := by
    rw [hBetween]
    exact hPlain.answer_detach hDisk _
  have hAll :
      Ends
        (Attaching.detachAll request.volumeId
          [owner.instanceId]) between (.ok ())
        (base.assign
          (Function.update owners request.volumeId none)) :=
    (Ends.mapError (Ends.call hDetach)).bind
      fun _ hAfter => Ends.done hAfter
  refine (Ends.mapError hAll).bind fun after hAfter => ?_
  exact Ends.failed hAfter

theorem publish_ends_of_refusal
    (hFree : owners request.volumeId = none)
    {code : Rpc.Code}
    (hRefusal :
      refusal? base request.volumeId request.nodeId = some code) :
    ∃ error : Csi.PublishVolume.Error,
      error.status.code = code ∧
        Ends (Attaching.publish settings request) world
          (.error error) (base.assign owners) := by
  have hVolume :=
    getVolume_ends Csi.PublishVolume.Error.volumeMissing hPlain
      hDisk hWorld
  rcases refused_ends hPlain hDisk hRefusal with
    ⟨error, hCode, hRefused⟩
  refine ⟨error, hCode, ?_⟩
  unfold Attaching.publish
  rw [hWritable, hSupported]
  refine hVolume.bind fun after hAfter => ?_
  rw [hFree, assess_of_free]
  exact hRefused hAfter

/- The node becomes the owner, and is told the device. -/
theorem publish_ends_of_admission
    (hFree : owners request.volumeId = none)
    (hAdmission :
      refusal? base request.volumeId request.nodeId = none) :
    Ends (Attaching.publish settings request) world
      (.ok [(Attaching.deviceKey, device)])
      (base.assign
        (Function.update owners request.volumeId
          (some ⟨request.nodeId, device⟩))) := by
  have hVolume :=
    getVolume_ends Csi.PublishVolume.Error.volumeMissing hPlain
      hDisk hWorld
  unfold Attaching.publish
  rw [hWritable, hSupported]
  refine hVolume.bind fun between hBetween => ?_
  rw [hFree, assess_of_free]
  refine admitted_ends hPlain hDisk hAdmission hBetween
    fun admitted hAdmitted => ?_
  have hAttach :=
    attach_ends settings request.nodeId hPlain hDisk hAdmitted
  refine (Ends.mapError hAttach).bind fun after hAfter => ?_
  refine awaitAttachment_ends settings hPlain hDisk ?_ hAfter
  rw [Function.update_self]

/- Publishing is a step of the machine. -/
theorem publish_ends :
    ∃ result,
      Ends (Attaching.publish settings request) world result
        (base.assign (step base owners
          (.publish request.volumeId request.nodeId)).2) ∧
      read ((result.mapError Csi.PublishVolume.Error.status).map
          .published) =
        some (step base owners
          (.publish request.volumeId request.nodeId)).1 := by
  cases hOwner : owners request.volumeId with
  | some owner =>
      by_cases hSame : owner.instanceId = request.nodeId
      · have hEnds :=
          publish_ends_of_owner settings hWritable hSupported
            hPlain hDisk hWorld hOwner hSame
        simp only [step, hOwner, if_pos hSame]
        exact ⟨_, hEnds, rfl⟩
      · rcases publish_ends_of_other settings hWritable hSupported
          hPlain hDisk hWorld hOwner hSame with ⟨detail, hEnds⟩
        simp only [step, hOwner, if_neg hSame]
        exact ⟨_, hEnds, rfl⟩
  | none =>
      cases hRefusal :
          refusal? base request.volumeId request.nodeId with
      | some code =>
          rcases publish_ends_of_refusal settings hWritable
            hSupported hPlain hDisk hWorld hOwner hRefusal with
            ⟨error, hCode, hEnds⟩
          simp only [step, hOwner, hRefusal]
          refine ⟨_, hEnds, ?_⟩
          rw [← hCode]
          rfl
      | none =>
          have hEnds :=
            publish_ends_of_admission settings hWritable hSupported
              hPlain hDisk hWorld hOwner hRefusal
          simp only [step, hOwner, hRefusal]
          exact ⟨_, hEnds, rfl⟩

end Publish

------------------------------------------------------------
-- Unpublishing
------------------------------------------------------------

/- A volume that is not in use on the node is left alone. -/
theorem unpublishFrom_ends_of_other
    (settings : Settings)
    {nodeId : String}
    (hWorld : world.backend = base.assign owners)
    (hOther :
      ∀ owner, owners volumeId = some owner →
        owner.instanceId ≠ nodeId) :
    Ends
      (Attaching.unpublishFrom settings volumeId nodeId
        (disk.heldBy (owners volumeId)))
      world (.ok ()) (base.assign owners) := by
  unfold Attaching.unpublishFrom
  cases hOwner : owners volumeId with
  | none => exact Ends.done hWorld
  | some owner =>
      rw [attachment?_of_other (hOther owner hOwner)]
      exact Ends.done hWorld

/- The owner loses the volume. -/
theorem unpublishFrom_ends_of_owner
    (settings : Settings)
    {owner : Disk.Attachment}
    (hPlain : base.Plain)
    (hDisk : base.disk? volumeId = some disk)
    (hOwner : owners volumeId = some owner)
    (hWorld : world.backend = base.assign owners) :
    Ends
      (Attaching.unpublishFrom settings volumeId owner.instanceId
        (disk.heldBy (owners volumeId)))
      world (.ok ())
      (base.assign (Function.update owners volumeId none)) := by
  have hDetach :
      world.backend.answer (.detach volumeId owner.instanceId) =
        (.ok (),
          base.assign (Function.update owners volumeId none)) := by
    rw [hWorld]
    exact hPlain.answer_detach hDisk owner.instanceId
  unfold Attaching.unpublishFrom
  rw [hOwner, attachment?_of_owner]
  refine (Ends.mapError (Ends.mapError (Ends.call hDetach))).bind
    fun between hBetween => ?_
  have hDetached :
      Attaching.isDetached
        (disk.heldBy
          (Function.update owners volumeId none volumeId)) =
        true := by
    rw [Function.update_self]
    rfl
  refine (Ends.mapError (untilMet_ends _ _ hPlain hDisk hBetween
    hDetached)).bind fun after hAfter => ?_
  exact Ends.done hAfter

/- Unpublishing is a step of the machine. -/
theorem unpublish_ends
    (settings : Settings)
    {request : Csi.UnpublishVolume.Request}
    (hPlain : base.Plain)
    (hDisk : base.disk? request.volumeId = some disk)
    (hWorld : world.backend = base.assign owners) :
    Ends (Attaching.unpublish settings request) world (.ok ())
        (base.assign (step base owners
          (.unpublish request.volumeId request.nodeId)).2) ∧
      (step base owners
        (.unpublish request.volumeId request.nodeId)).1 =
          .unpublished := by
  have hGet :
      world.backend.answer (.get request.volumeId) =
        (.ok (disk.heldBy (owners request.volumeId)),
          base.assign owners) := by
    rw [hWorld]
    exact hPlain.answer_get hDisk
  rw [step]
  split
  · next hSome =>
      rcases (Option.any_eq_true _ _).mp hSome with
        ⟨owner, hOwner, hOwns⟩
      have hSame : owner.instanceId = request.nodeId := by
        simpa using hOwns
      refine ⟨?_, rfl⟩
      refine Ends.ask hGet fun after hAfter => ?_
      have hEnds :=
        unpublishFrom_ends_of_owner settings hPlain hDisk hOwner
          hAfter
      rw [hSame] at hEnds
      exact hEnds
  · next hOther =>
      refine ⟨?_, rfl⟩
      refine Ends.ask hGet fun after hAfter => ?_
      refine unpublishFrom_ends_of_other settings hAfter ?_
      intro owner hOwner hSame
      rw [hOwner] at hOther
      simp [hSame] at hOther

------------------------------------------------------------
-- Messages
------------------------------------------------------------

/- A message is answered as the machine replies to its move. -/
theorem serve_ends
    (settings : Settings)
    {message : Csi.Controller.Message}
    {move : Move}
    (hAsks : Asks base message move)
    (hPlain : base.Plain)
    (hWorld : world.backend = base.assign owners) :
    ∃ answer,
      Ends ((provisioner settings).serve message) world answer
        (base.assign (step base owners move).2) ∧
      read answer = some (step base owners move).1 := by
  cases hAsks with
  | @publish message request disk hRead hWritable hSupported
      hDisk =>
      rcases Csi.PublishVolume.Request.ids_of_ofMessage hRead with
        ⟨hVolume, hNode⟩
      rw [← hVolume] at hDisk
      rw [← hVolume, ← hNode]
      rcases publish_ends settings hWritable hSupported hPlain
        hDisk hWorld with ⟨result, hEnds, hReply⟩
      refine ⟨_, ?_, hReply⟩
      rw [Csi.Controller.serve, hRead]
      exact Ends.procedure hEnds
  | unpublish hRead hDisk =>
      rcases unpublish_ends settings hPlain hDisk hWorld with
        ⟨hEnds, hReply⟩
      refine ⟨.ok .unpublished, ?_, ?_⟩
      · rw [Csi.Controller.serve, hRead]
        exact Ends.procedure hEnds
      · rw [hReply]
        rfl

/- Messages are answered as the machine replies to its moves. -/
theorem serveAll_ends
    (settings : Settings)
    {messages : List Csi.Controller.Message}
    {moves : List Move}
    (hAsks : List.Forall₂ (Asks base) messages moves)
    (hPlain : base.Plain)
    (hWorld : world.backend = base.assign owners) :
    (serveAll settings messages world).1.map read =
        (run base owners moves).1.map some ∧
      (serveAll settings messages world).2.backend =
        base.assign (run base owners moves).2 := by
  induction hAsks generalizing world owners with
  | nil => exact ⟨rfl, hWorld⟩
  | @cons message move messages moves hFirst _ ih =>
      rcases serve_ends settings hFirst hPlain hWorld with
        ⟨answer, ⟨hAnswer, hBackend⟩, hReply⟩
      rcases ih hBackend with ⟨hRest, hLast⟩
      have hHead :
          read (World.run ((provisioner settings).serve message)
            world).1 = some (step base owners move).1 := by
        rw [hAnswer]
        exact hReply
      exact ⟨congrArg₂ List.cons hHead hRest, hLast⟩

/-
  From any state in which each volume is available or in use
  once, sequences of valid messages on existing volumes are
  answered as the machine replies, the backend afterwards is
  the one that the owners give, and it is such a state again.
-/
theorem serveAll_refines
    (settings : Settings)
    {world : World}
    {messages : List Csi.Controller.Message}
    {moves : List Move}
    (hPlain : world.backend.Plain)
    (hTidy : ∀ disk ∈ world.backend.disks, disk.Tidy)
    (hAsks : List.Forall₂ (Asks world.backend) messages moves) :
    let replied :=
      run world.backend world.backend.ownersOf moves
    let served := serveAll settings messages world
    served.1.map read = replied.1.map some ∧
      served.2.backend = world.backend.assign replied.2 ∧
      ∀ disk ∈ served.2.backend.disks, disk.Tidy := by
  have hOwners :
      world.backend =
        world.backend.assign world.backend.ownersOf :=
    (Backend.assign_ownersOf hPlain.ordered hTidy).symm
  rcases serveAll_ends settings hAsks hPlain hOwners with
    ⟨hAnswers, hBackend⟩
  refine ⟨hAnswers, hBackend, fun disk hDisk => ?_⟩
  rw [hBackend] at hDisk
  rcases List.mem_map.mp hDisk with ⟨old, _, rfl⟩
  exact Disk.tidy_heldBy

/-
  A volume changes its owner in two attempts, another node is
  not known, and the old owner gives nothing up.
-/
theorem serveAll_refines_change_of_owner :
    let capability : Csi.CapabilityMessage :=
      ⟨some 1, some (.mount "ext4" [])⟩
    let publish (nodeId : String) : Csi.Controller.Message :=
      .publish
        { volumeId := "vol-1"
          nodeId := nodeId
          capability := some capability }
    let unpublish (nodeId : String) : Csi.Controller.Message :=
      .unpublish { volumeId := "vol-1", nodeId := nodeId }
    let inst (id : String) : Memory.Instance :=
      ⟨id, ⟨"region-1", "zone-a", "small", ["cloud_ssd"], 1⟩, []⟩
    let disk : Disk :=
      ⟨"vol-1", "pvc-1", 10, .inUse, "cloud_ssd", "zone-a",
        [⟨"node-1", "/dev/vdc"⟩], 0, []⟩
    let world : World :=
      { backend :=
          { disks := [disk]
            instances := [inst "node-1", inst "node-2"] } }
    let messages :=
      [publish "node-1", publish "node-2", publish "node-3",
        publish "node-2", unpublish "node-1", unpublish "node-2"]
    (serveAll {} messages world).1.map read =
      [some (.published "/dev/vdc"),
        some (.refused .failedPrecondition),
        some (.refused .notFound),
        some (.published "/dev/vdb"),
        some .unpublished,
        some .unpublished] := by
  intro capability publish unpublish inst disk world messages
  have hPlain : world.backend.Plain :=
    ⟨by decide, by decide, by decide, rfl, rfl, rfl⟩
  have hTidy : ∀ disk ∈ world.backend.disks, disk.Tidy := by
    decide
  have hAsks :
      List.Forall₂ (Asks world.backend) messages
        [.publish "vol-1" "node-1", .publish "vol-1" "node-2",
          .publish "vol-1" "node-3", .publish "vol-1" "node-2",
          .unpublish "vol-1" "node-1",
          .unpublish "vol-1" "node-2"] := by
    refine .cons (.publish rfl rfl rfl rfl) ?_
    refine .cons (.publish rfl rfl rfl rfl) ?_
    refine .cons (.publish rfl rfl rfl rfl) ?_
    refine .cons (.publish rfl rfl rfl rfl) ?_
    refine .cons (.unpublish rfl rfl) ?_
    exact .cons (.unpublish rfl rfl) .nil
  exact (serveAll_refines {} hPlain hTidy hAsks).1

end Ownership

end BlockVolumes
