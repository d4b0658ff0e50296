import BlockVolumes.Proofs.Allocation
import BlockVolumes.Proofs.Creation.Loss
import BlockVolumes.Proofs.Creation.Repeated
import BlockVolumes.Proofs.Growing.Observation
import BlockVolumes.Proofs.Registration.Labels

/-
  Counts in answers: how many volumes a node takes, how full a
  filesystem is, and how large a volume is. Counts are numbers
  of 64 bits without a sign, the fields that carry them have
  one, so that a count of `2 ^ 63` or more is carried as a
  number below zero.

  Key definitions include:
    * `Csi.Carries`
    * `Service.NodeAgent.LimitOf`

  Key theorems include:
    * `Csi.carries_signed64`
    * `Capacity.le_maximum_of_allocate`
    * `Service.NodeAgent.run_info`
    * `Service.NodeAgent.run_usage`
    * `Service.Creation.allocated_of_create`
    * `Service.Reporting.answers_carry_counts`
-/

namespace BlockVolumes

------------------------------------------------------------
-- Fields with a Sign
------------------------------------------------------------

namespace Csi

/-
  How a field carries a count. The count is in the field if it
  is below `2 ^ 63`; one of 64 bits that is not below it shows
  as a number less than zero.
-/
structure Carries
    (count : Nat)
    (field : Int) : Prop where
  wrapped : field % UInt64.size = count % UInt64.size
  exact_iff : field = count ↔ count < Nat.pow 2 63
  negative_iff :
    count < UInt64.size → (field < 0 ↔ Nat.pow 2 63 ≤ count)

theorem carries_signed64
    (count : Nat) :
    Carries count (signed64 count) := by
  have hBits :
      signed64 count % UInt64.size = count % UInt64.size :=
    Int.bmod_emod
  have hHalf : Nat.pow 2 63 = 9223372036854775808 := rfl
  have hLow : -9223372036854775808 ≤ signed64 count :=
    Int.le_bmod (by decide)
  have hHigh : signed64 count < 9223372036854775808 :=
    Int.bmod_lt (by decide)
  refine ⟨hBits, signed64_eq_self_iff, fun hCount => ?_⟩
  have hSize : UInt64.size = 18446744073709551616 := rfl
  rw [hSize] at hBits
  omega

/- How the figures of a filesystem are carried. -/
structure UsageMessage.Tells
    (message : UsageMessage)
    (whole free taken : Nat) : Prop where
  total : Carries whole message.total
  available : Carries free message.available
  used : Carries taken message.used

theorem Usage.tells_toMessage
    (usage : Usage) :
    usage.toMessage.Tells usage.total usage.available
      usage.used := by
  constructor
  · simpa only [toMessage] using carries_signed64 usage.total
  · simpa only [toMessage] using carries_signed64 usage.available
  · simpa only [toMessage] using carries_signed64 usage.used

/- A count of zero is not there, which is carried as zero. -/
theorem carries_elim
    (count : Nat) :
    Carries count ((nonzero count).elim 0 signed64) := by
  unfold nonzero
  split
  · next hZero =>
      have hField : signed64 0 = 0 := signed64_eq_self (by decide)
      rw [hZero, Option.elim_none, ← hField]
      exact carries_signed64 0
  · rw [Option.elim_some]
    exact carries_signed64 count

theorem Volume.carries_capacity
    {volume : Volume}
    {count : Nat}
    (h : volume.capacity = nonzero count) :
    Carries count volume.toMessage.capacityBytes := by
  have hBytes :
      volume.toMessage.capacityBytes =
        volume.capacity.elim 0 signed64 := by
    rw [Volume.toMessage]
    cases volume.capacity with
    | none => rfl
    | some bytes => rw [Option.elim_some]
  rw [hBytes, h]
  exact carries_elim count

theorem NodeInfo.carries_volumeLimit
    {info : NodeInfo}
    {count : Nat}
    (h : info.volumeLimit = nonzero count) :
    Carries count info.toAnswer.volumeLimit := by
  have hLimit :
      info.toAnswer.volumeLimit =
        info.volumeLimit.elim 0 signed64 := by
    rw [NodeInfo.toAnswer]
    cases info.volumeLimit with
    | none => rfl
    | some limit => rw [Option.elim_some]
  rw [hLimit, h]
  exact carries_elim count

end Csi

------------------------------------------------------------
-- Sizes
------------------------------------------------------------

/- No size is allocated that the backend does not offer. -/
theorem Capacity.le_maximum_of_allocate
    {limits : Limits}
    {range : Range}
    {size : Nat}
    (h : allocate limits (some range) = .ok size) :
    size * gib ≤ limits.maximum := by
  have hUpper : upperBound limits (some range) ≤ limits.maximum := by
    unfold upperBound
    split
    · exact Nat.min_le_right _ _
    · exact Nat.le_refl _
  refine Nat.le_trans ?_ hUpper
  cases hBytes : requestedBytes limits (some range) with
  | error refusal =>
      rw [allocate, hBytes] at h
      cases h
  | ok bytes =>
      rw [allocate_of_requestedBytes hBytes] at h
      rcases requestedBytes_eq_ok_iff.mp hBytes with
        ⟨hSupported, rfl⟩
      split at h
      · next hUp =>
          cases h
          exact hUp
      · split at h
        · cases h
          exact Nat.le_trans (Nat.div_mul_le_self _ _)
            hSupported.asked_between.2
        · cases h

namespace Service

open Csi (Carries)
open Host (Observes Record Replies)

variable {settings : Settings}
variable {replies : Replies}
variable {past : Record}

namespace Creation

variable {name : String}
variable {size : Nat}
variable {request : Csi.CreateVolume.Request}
variable {order : Order}

theorem accept_fits
    (disk : Disk) :
    Observes (fun _ _ => True)
      (fun found _ => ∀ kept, found = some kept → kept.size = size)
      (some <$> Program.ofExcept (accept name size disk)) past := by
  cases hAccept : accept name size disk with
  | error error => exact Observes.failed
  | ok kept =>
      rcases accept_eq_ok.mp hAccept with ⟨rfl, _, hSize⟩
      refine Observes.done_iff.mpr ?_
      rintro _ ⟨⟩
      exact hSize

/- A volume of another size is not taken for the wanted one. -/
theorem findExisting_fits
    (settings : Settings)
    (name : String)
    (size : Nat) :
    Observes (fun _ _ => True)
      (fun found _ => ∀ kept, found = some kept → kept.size = size)
      (findExisting settings name size) past := by
  refine (Observes.any _ past).bind fun disks now _ => ?_
  split
  · exact Observes.done_iff.mpr nofun
  · next disk _ => exact accept_fits disk
  · exact (Observes.any _ now).bind fun disk _ _ => accept_fits disk

/- The volume of an answer has the size that is ordered. -/
theorem create_fits
    (settings : Settings)
    (request : Csi.CreateVolume.Request)
    (past : Record) :
    Observes (fun _ _ => True)
      (fun volume _ =>
        ∃ order,
          readOrder settings request = .ok order ∧
            volume.capacity =
              Csi.nonzero (order.size * Capacity.gib))
      (create settings request) past := by
  rw [create_eq]
  refine (Observes.checked _).bind fun order now hOrder => ?_
  refine (findExisting_fits settings _ _).bind
    fun found later hFound => ?_
  cases found with
  | some disk =>
      refine Observes.done_iff.mpr ⟨order, hOrder.1, ?_⟩
      rw [← hFound disk rfl]
      rfl
  | none =>
      refine (Observes.any _ later).bind fun zone _ _ => ?_
      refine (Observes.any _ _).bind fun made _ _ => ?_
      exact Observes.done_iff.mpr ⟨order, hOrder.1, rfl⟩

/- The capacity of an answer is allocated by the settings. -/
theorem serve_create_carries
    {message : Csi.CreateVolume.Message}
    {answer : Csi.Controller.Answer}
    (hAnswer :
      (replies.run ((provisioner settings).serve (.create message))
        past).1 = .ok answer) :
    ∃ volume range size,
      answer = .created volume ∧
        Capacity.allocate settings.capacity (some range) =
          .ok size ∧
        Carries (size * Capacity.gib) volume.capacityBytes := by
  cases hRead : Csi.CreateVolume.Request.ofMessage message with
  | error refusal =>
      have hRun :
          replies.run
              ((provisioner settings).serve (.create message)) past =
            (.error refusal, past) :=
        Replies.run_procedure_refused hRead
      rw [hRun] at hAnswer
      exact nomatch hAnswer
  | ok request =>
      rw [run_serve hRead] at hAnswer
      cases hEnd : (replies.run (create settings request) past).1 with
      | error error =>
          rw [hEnd] at hAnswer
          exact nomatch hAnswer
      | ok volume =>
          rw [hEnd] at hAnswer
          cases hAnswer
          rcases (create_fits settings request past).of_run hEnd with
            ⟨order, hOrder, hCapacity⟩
          rcases readOrder_eq_ok_iff.mp hOrder with
            ⟨_, _, range, _, hAllocate, _⟩
          exact ⟨_, range, order.size, rfl, hAllocate,
            Csi.Volume.carries_capacity hCapacity⟩

end Creation

namespace Growing

/- An enlarged volume is told to be as large as it was seen. -/
theorem serve_expand_carries
    {message : Csi.ExpandVolume.Message}
    {answer : Csi.Controller.Answer}
    (hAnswer :
      (replies.run ((provisioner settings).serve (.expand message))
        []).1 = .ok answer) :
    ∃ bytes range size told,
      answer = .expanded ⟨bytes, true⟩ ∧
        Capacity.allocate settings.capacity (some range) =
          .ok size ∧
        Observed message.volumeId size told
          (replies.run
            ((provisioner settings).serve (.expand message))
            []).2 ∧
        Carries (told * Capacity.gib) bytes := by
  by_cases hAsked : ∃ range size, Asked settings message range size
  · rcases hAsked with ⟨range, size, hAsked⟩
    rcases hAsked.read with ⟨request, hRead, rfl⟩
    have hObserved :=
      expand_observed hAsked.enabled hAsked.allocated
    rw [Csi.ExpandVolume.Request.volumeId_of_ofMessage hRead]
      at hObserved
    rw [run_serve_expand settings replies hRead] at hAnswer ⊢
    cases hEnd : (replies.run (expand settings request) []).1 with
    | error error =>
        rw [hEnd] at hAnswer
        exact nomatch hAnswer
    | ok outcome =>
        rw [hEnd] at hAnswer
        cases hAnswer
        rcases hObserved.of_run hEnd with ⟨told, rfl, hTold⟩
        exact ⟨_, _, size, told, rfl, hAsked.allocated, hTold,
          Csi.carries_signed64 _⟩
  · rcases run_serve_expand_of_not_asked settings message replies
      hAsked with ⟨refusal, hRun⟩
    rw [hRun] at hAnswer
    exact nomatch hAnswer

end Growing

------------------------------------------------------------
-- Nodes
------------------------------------------------------------

namespace NodeAgent

open Mount (Usage)
open Registration (lookup)

/-
  Where the limit that a call tells comes from: the topology
  that is kept, else the labels of the node, else the settings.
-/
inductive LimitOf
    (settings : Settings)
    (replies : Replies)
    (past : Record) : Nat → Prop where
  | kept
      {topology : Topology}
      (hKept : replies .knownTopology past = some topology) :
      LimitOf settings replies past topology.volumeLimit
  | labelled
      {node : Cluster.Node}
      {topology : Topology}
      (hKept : replies .knownTopology past = none)
      (hNode :
        replies (.cluster (.getNode settings.nodeName))
            (⟨.knownTopology, none⟩ :: past) =
          .ok node)
      (hLabels : Topology.ofLabels? node = some topology) :
      LimitOf settings replies past topology.volumeLimit
  | configured
      (hKept : replies .knownTopology past = none)
      (hLabels :
        ∀ node,
          replies (.cluster (.getNode settings.nodeName))
              (⟨.knownTopology, none⟩ :: past) =
            .ok node →
          Topology.ofLabels? node = none) :
      LimitOf settings replies past settings.volumesPerNode

/- The settings stand in, whether a registration is begun or not. -/
theorem run_unlabelled
    (settings : Settings)
    (replies : Replies)
    (past : Record) :
    (replies.run (afterLookup settings (.ok none)) past).1 =
      .ok (described settings (configured settings)) := by
  rw [afterLookup_none]
  refine (congrArg Prod.fst (Replies.run_ask rfl)).trans ?_
  split
  · rfl
  · rfl

/- A call about the node goes well, whatever the replies. -/
theorem run_info
    (settings : Settings)
    (replies : Replies)
    (past : Record) :
    ∃ topology,
      (replies.run (info settings) past).1 =
          .ok (described settings topology) ∧
        LimitOf settings replies past topology.volumeLimit := by
  have hLookup := Registration.run_lookup settings replies past
  have hInfo :
      replies.run (info settings) past =
        replies.run
          (afterLookup settings
            (replies.run (lookup settings) past).1)
          (replies.run (lookup settings) past).2 := by
    rw [info_eq]
    exact Replies.run_bind_of_ok (Replies.run_attempt _ _ _) _
  rw [hInfo, hLookup]
  dsimp only
  cases hKept : (replies .knownTopology past : Option Topology) with
  | some topology => exact ⟨topology, rfl, .kept hKept⟩
  | none =>
      dsimp only
      generalize hReply :
        replies (.cluster (.getNode settings.nodeName))
          (⟨.knownTopology, none⟩ :: past) = reply
      cases reply with
      | error error =>
          refine ⟨configured settings, rfl, .configured hKept ?_⟩
          intro node hNode
          rw [hReply] at hNode
          exact nomatch hNode
      | ok node =>
          dsimp only
          cases hLabels : Topology.ofLabels? node with
          | some topology =>
              exact ⟨topology, rfl, .labelled hKept hReply hLabels⟩
          | none =>
              refine ⟨configured settings, run_unlabelled _ _ _,
                .configured hKept ?_⟩
              · intro other hOther
                rw [hReply] at hOther
                cases hOther
                exact hLabels

/- A call of the mounter that goes well is put on record. -/
theorem run_call_of_ok
    {operation volumeId : String}
    {call : Mount.Call}
    {result : call.Result}
    (h : replies (.mounter call) past = .ok result) :
    replies.run
        (within (Mounting.call operation volumeId call) :
          Program Host Csi.VolumeStats.Error call.Result) past =
      (.ok result, ⟨.mounter call, .ok result⟩ :: past) :=
  Replies.run_within_of_ok (Replies.run_ask h)

/-
  Whether the mounter finds a path, says whether something is
  mounted there, and reads the figures of its filesystem.
-/
structure Reads
    (replies : Replies)
    (past : Record)
    (path : Path)
    (mounted : Bool)
    (figures : Usage) : Prop where
  found : replies (.mounter (.pathExists path)) past = .ok true
  looked :
    replies (.mounter (.isMounted path))
        (⟨.mounter (.pathExists path), .ok true⟩ :: past) =
      .ok mounted
  read :
    replies (.mounter (.usage path))
        (⟨.mounter (.isMounted path), .ok mounted⟩ ::
          ⟨.mounter (.pathExists path), .ok true⟩ :: past) =
      .ok figures

/- The figures of a filesystem are reported as they are read. -/
theorem run_usage
    {request : Csi.VolumeStats.Request}
    {mounted : Bool}
    {figures : Usage}
    (h : Reads replies past request.volumePath mounted figures) :
    (replies.run (usage request) past).1 =
      .ok (report (conditionOf request.volumePath mounted)
        figures) := by
  unfold usage volumePathExists Mounting.isMounted readUsage
  simp only [Program.bind_eq]
  rw [Replies.run_bind_of_ok (run_call_of_ok h.found), if_pos rfl,
    Replies.run_bind_of_ok (run_call_of_ok h.looked),
    Replies.run_bind_of_ok (run_call_of_ok h.read)]
  rfl

/- The limit of a node is carried wherever it comes from. -/
theorem serve_info_carries
    (settings : Settings)
    (premium : Pattern)
    (isDirectory : Path → Bool)
    (replies : Replies)
    (past : Record) :
    ∃ limit answer,
      (replies.run
          ((nodeAgent settings premium).serve isDirectory .info)
          past).1 = .ok (.info answer) ∧
        LimitOf settings replies past limit ∧
        Carries limit answer.volumeLimit := by
  rcases run_info settings replies past with
    ⟨topology, hRun, hLimit⟩
  have hCarries :
      Carries topology.volumeLimit
        (described settings topology).toAnswer.volumeLimit :=
    Csi.NodeInfo.carries_volumeLimit rfl
  refine ⟨_, _, ?_, hLimit, hCarries⟩
  have hServe :
      replies.run
          ((nodeAgent settings premium).serve isDirectory .info)
          past =
        (((replies.run (info settings) past).1.mapError
            Csi.NodeInfo.Error.status).map fun info =>
              .info info.toAnswer,
          (replies.run (info settings) past).2) := by
    change
      replies.run
        (Csi.procedure "NodeGetInfo" Csi.NodeInfo.Error.status
          (fun info => Csi.Node.Answer.info info.toAnswer)
          (some fun _ : Unit => info settings) (.ok ()))
        past = _
    exact Replies.run_procedure rfl
  rw [hServe, hRun]
  rfl

/- The figures of a filesystem are carried in two groups. -/
theorem serve_usage_carries
    (settings : Settings)
    (premium : Pattern)
    (isDirectory : Path → Bool)
    {message : Csi.VolumeStats.Message}
    {request : Csi.VolumeStats.Request}
    {mounted : Bool}
    {figures : Usage}
    (hRead : Csi.VolumeStats.Request.ofMessage message = .ok request)
    (hFigures :
      Reads replies past request.volumePath mounted figures) :
    ∃ bytes inodes condition,
      (replies.run
          ((nodeAgent settings premium).serve isDirectory
            (.usage message)) past).1 =
          .ok (.usage ⟨[bytes, inodes], condition⟩) ∧
        bytes.Tells figures.totalBytes figures.availableBytes
          figures.usedBytes ∧
        inodes.Tells figures.totalInodes figures.freeInodes
          figures.usedInodes := by
  have hBytes :=
    Csi.Usage.tells_toMessage
      ⟨.bytes, figures.totalBytes, figures.availableBytes,
        figures.usedBytes⟩
  have hInodes :=
    Csi.Usage.tells_toMessage
      ⟨.inodes, figures.totalInodes, figures.freeInodes,
        figures.usedInodes⟩
  refine ⟨_, _, some (conditionOf request.volumePath mounted), ?_,
    hBytes, hInodes⟩
  have hServe :
      replies.run
          ((nodeAgent settings premium).serve isDirectory
            (.usage message)) past =
        (((replies.run (usage request) past).1.mapError
            Csi.VolumeStats.Error.status).map fun report =>
              .usage report.toAnswer,
          (replies.run (usage request) past).2) :=
    Replies.run_procedure hRead
  rw [hServe, run_usage hFigures]
  rfl

end NodeAgent

------------------------------------------------------------
-- Answers
------------------------------------------------------------

namespace Reporting

/-
  Each count is carried by its field as far as a number with a
  sign can carry it: the limit of a node, the figures of a
  filesystem, and the capacity of a volume that is created or
  enlarged. What is created or asked for is no larger than the
  settings allow, so that it is carried as it is where they
  allow less than `2 ^ 63` bytes.
-/
theorem answers_carry_counts
    (settings : Settings)
    (premium : Pattern)
    (isDirectory : Path → Bool)
    (replies : Replies) :
    let node := nodeAgent settings premium
    let controller := provisioner settings
    (∃ limit answer,
      (replies.run (node.serve isDirectory .info) []).1 =
          .ok (.info answer) ∧
        NodeAgent.LimitOf settings replies [] limit ∧
        Carries limit answer.volumeLimit) ∧
    (∀ message request mounted figures,
      Csi.VolumeStats.Request.ofMessage message = .ok request →
        NodeAgent.Reads replies [] request.volumePath mounted
          figures →
        ∃ bytes inodes condition,
          (replies.run (node.serve isDirectory (.usage message))
              []).1 =
              .ok (.usage ⟨[bytes, inodes], condition⟩) ∧
            bytes.Tells figures.totalBytes figures.availableBytes
              figures.usedBytes ∧
            inodes.Tells figures.totalInodes figures.freeInodes
              figures.usedInodes) ∧
    (∀ message answer,
      (replies.run (controller.serve (.create message)) []).1 =
          .ok answer →
        ∃ volume size,
          answer = .created volume ∧
            size * Capacity.gib ≤ settings.capacity.maximum ∧
            Carries (size * Capacity.gib) volume.capacityBytes) ∧
    ∀ message answer,
      (replies.run (controller.serve (.expand message)) []).1 =
          .ok answer →
        ∃ bytes size told,
          answer = .expanded ⟨bytes, true⟩ ∧
            size * Capacity.gib ≤ settings.capacity.maximum ∧
            Growing.Observed message.volumeId size told
              (replies.run (controller.serve (.expand message))
                []).2 ∧
            Carries (told * Capacity.gib) bytes := by
  refine ⟨?_, ?_, ?_, ?_⟩
  · exact NodeAgent.serve_info_carries settings premium isDirectory
      replies []
  · intro message request mounted figures hRead hFigures
    exact NodeAgent.serve_usage_carries settings premium isDirectory
      hRead hFigures
  · intro message answer hAnswer
    rcases Creation.serve_create_carries hAnswer with
      ⟨volume, range, size, hCreated, hAllocate, hCarries⟩
    exact ⟨volume, size, hCreated,
      Capacity.le_maximum_of_allocate hAllocate, hCarries⟩
  · intro message answer hAnswer
    rcases Growing.serve_expand_carries hAnswer with
      ⟨bytes, range, size, told, hTold, hAllocate, hSeen, hCarries⟩
    exact ⟨bytes, size, told, hTold,
      Capacity.le_maximum_of_allocate hAllocate, hSeen, hCarries⟩

/- A limit of `2 ^ 63` in a label is told as less than zero. -/
theorem label_told_below_zero :
    let settings : Settings := { nodeId := "i-1", nodeName := "node-a" }
    let node : Cluster.Node :=
      { name := "node-a"
        instanceId := some "i-1"
        labels :=
          [(Cluster.zoneKey, "zone-a"),
            (Cluster.volumeLimitKey, "9223372036854775808")]
        ready := true }
    let replies : Replies := fun request _ =>
      match request with
      | .cluster (.getNode _) => .ok node
      | request => (Memory.World.answer request {}).1
    let agent := nodeAgent settings (.sequence .atStart .atEnd)
    settings.validate.isOk = true ∧
      (Topology.ofLabels? node).map (·.volumeLimit) =
        some 9223372036854775808 ∧
      (replies.run (agent.serve (fun _ => true) .info) []).1 =
        .ok (.info
          { nodeId := "i-1"
            volumeLimit := -9223372036854775808
            topology := some [(Cluster.zoneKey, "zone-a")] }) := by
  intro settings node replies agent
  exact ⟨by decide +kernel, by decide +kernel, by decide +kernel⟩

end Reporting

end Service

end BlockVolumes
