import BlockVolumes.Proofs.Creation.Duplicates
import BlockVolumes.Proofs.Csi.Reading
import BlockVolumes.Proofs.Waiting.Polls
import BlockVolumes.Service.Provisioner

/-
  The controller respects the transitions of the backend. In
  whatever way the backend and the directory answer, a call
  acts on a volume only after it has seen the volume in a
  status that permits the action.

  Key definitions include:
    * `Csi.Controller.Message.subject?`
    * `Service.Creation.createNew`
    * `Service.Transitions.Lawful`
    * `Service.Transitions.Allowed`

  Key theorems include:
    * `Service.Transitions.attach_observes`
    * `Service.Transitions.removeAll_observes`
    * `Service.Transitions.serve_lawful`
-/

namespace BlockVolumes

/- The volume that a message asks to be changed. -/
def Csi.Controller.Message.subject? :
    Csi.Controller.Message → Option String
  | .publish message => some message.volumeId
  | .unpublish request => some request.volumeId
  | .expand message => some message.volumeId
  | _ => none

namespace Service

------------------------------------------------------------
-- Parts of a Creation
------------------------------------------------------------

namespace Creation

/- Creates the volume of an order, of which there is none yet. -/
def createNew
    (settings : Settings)
    (request : Csi.CreateVolume.Request)
    (order : Order) :
    Program Host Csi.CreateVolume.Error Csi.Volume := do
  let zone ←
    within (Zones.choose settings.nodeRole order.parameters
      request.requirement)
  let (id, diskType) ←
    within (createDisk settings request.name order.size zone
      order.parameters)
  return describeVolume settings id order.size diskType zone

theorem create_eq
    (settings : Settings)
    (request : Csi.CreateVolume.Request) :
    create settings request =
      (checked (readOrder settings request)).bind
        fun order =>
          (findExisting settings request.name
            order.size).bind fun
            | some disk => .done (describeDisk settings disk)
            | none => createNew settings request order :=
  rfl

end Creation

namespace Transitions

open Host (Observes Quiet Record latest performed
  performed_of_harmless)

------------------------------------------------------------
-- Lawful Actions
------------------------------------------------------------

/-
  Whether a call may act on a volume when it has a record: it
  has seen the volume in a fitting status. Only deletions are
  of volumes that the message does not name, and what was
  attached is not detached by the same call.
-/
structure Lawful
    (subject : Option String)
    (action : Disk.Action)
    (id : String)
    (past : Record) : Prop where
  permitted :
    ∃ disk ∈ latest id past, disk.status.permits action = true
  own : action ≠ .delete → subject = some id
  undetached :
    action = .attach → ∀ other, (.detach, other) ∉ performed past
  unattached :
    action = .detach → ∀ other, (.attach, other) ∉ performed past

/- Whether a request acts on volumes in a lawful way only. -/
def Allowed
    (subject : Option String)
    (request : Host.Request)
    (past : Record) : Prop :=
  ∀ action id,
    request.action? = some (action, id) →
      Lawful subject action id past

variable {subject : Option String}
variable {past : Record}
variable {volumeId : String}
variable {disk : Disk}

theorem allowed_of_harmless
    {request : Host.Request}
    (h : request.action? = none) :
    Allowed subject request past := by
  intro action id hAction
  rw [h] at hAction
  exact nomatch hAction

theorem allowed_of_lawful
    {request : Host.Request}
    {action : Disk.Action}
    {id : String}
    (hAction : request.action? = some (action, id))
    (hLawful : Lawful subject action id past) :
    Allowed subject request past := by
  intro other otherId hOther
  have hSame : (action, id) = (other, otherId) :=
    Option.some.inj (hAction.symm.trans hOther)
  cases hSame
  exact hLawful

/-
  Whether a program acts lawfully, and its result agrees with
  the record at its end.
-/
abbrev Acts
    {ε α : Type}
    (subject : Option String)
    (middle : α → Record → Prop)
    (program : Program Host ε α)
    (past : Record) : Prop :=
  Observes (Allowed subject) middle program past

/- A program of which nothing is known but that it is lawful. -/
abbrev ActsLawfully
    {ε α : Type}
    (subject : Option String)
    (program : Program Host ε α)
    (past : Record) : Prop :=
  Acts subject (fun _ _ => True) program past

/- A call of the backend that acts on a volume. -/
theorem backend_acts
    {call : Backend.Call}
    {action : Disk.Action}
    {id : String}
    (hAction : call.action? = some (action, id))
    (hLawful : Lawful subject action id past) :
    Acts subject
      (fun result now =>
        now = ⟨.backend call, .ok result⟩ :: past)
      (Host.backend call) past :=
  Observes.backend (allowed_of_lawful hAction hLawful)

------------------------------------------------------------
-- Looking at a Volume
------------------------------------------------------------

/-
  What is known of a volume that was just looked at, by a part
  of a call that has acted on nothing.
-/
structure Seen
    (volumeId : String)
    (past : Record)
    (disk : Disk)
    (now : Record) : Prop where
  latest : disk ∈ latest volumeId now
  quiet : performed now = performed past

theorem seen_get
    {now : Record}
    (h : performed now = performed past) :
    Seen volumeId past disk
      (⟨.backend (.get volumeId), .ok disk⟩ :: now) := by
  constructor
  · rw [Host.latest_get]
    exact List.mem_singleton_self disk
  · rw [performed_of_harmless rfl, h]

theorem getVolume_observes
    {ε : Type}
    [RpcError ε]
    (missing : String → ε) :
    Acts subject (Seen volumeId past)
      (Attaching.getVolume missing volumeId) past := by
  refine (Attaching.getVolume_reads missing
    (allowed_of_harmless rfl)).mono fun disk now hNow => ?_
  subst hNow
  exact seen_get rfl

/- A volume that was waited for is seen as it was wanted. -/
theorem untilMet_observes
    (polling : Polling)
    (expected : String)
    (wanted : Disk → Bool) :
    Acts subject
      (fun disk now => wanted disk = true ∧
        Seen volumeId past disk now)
      (Wait.untilMet polling volumeId expected wanted) past := by
  refine (Wait.untilMet_waits (fun _ => allowed_of_harmless rfl)
    (fun _ _ => allowed_of_harmless rfl) polling expected wanted
    past).mono fun disk now h => ?_
  rcases h with ⟨hWanted, between, rfl, hWaits⟩
  exact ⟨hWanted, seen_get (Host.performed_of_waits hWaits)⟩

------------------------------------------------------------
-- Attaching
------------------------------------------------------------

/- The limits of a node say nothing about the volume. -/
theorem getLimits_observes
    (nodeId diskType : String) :
    Acts subject
      (fun _ now =>
        performed now = performed past ∧
          latest volumeId now = latest volumeId past)
      (Attaching.getLimits nodeId diskType) past := by
  refine (Attaching.getLimits_reads (allowed_of_harmless rfl)
    fun _ => allowed_of_harmless rfl).mono fun limits now hNow => ?_
  subst hNow
  constructor
  · exact (performed_of_harmless rfl).trans
      (performed_of_harmless rfl)
  · exact (Host.latest_cons_of_blind rfl).trans
      (Host.latest_cons_of_blind rfl)

/- The volume is available when it is attached. -/
theorem attach_observes
    (settings : Settings)
    (nodeId : String)
    {now : Record}
    (hSeen : Seen volumeId [] disk now) :
    ActsLawfully (some volumeId)
      (Attaching.attach settings volumeId nodeId disk) now := by
  have hAttach :
      ∀ {ready now},
        Seen volumeId [] ready now →
          ActsLawfully (some volumeId)
            (if ready.status.permits .attach then do
              during .backend "attach volume" volumeId
                (Host.backend (.attach volumeId nodeId))
              Host.sleep settings.attachSettle
            else
              throw (.refused volumeId ready.status .attach))
            now := by
    intro ready now hReady
    split
    · next hPermitted =>
        have hLawful :
            Lawful (some volumeId) .attach volumeId now := by
          constructor
          · exact ⟨ready, hReady.latest, hPermitted⟩
          · exact fun _ => rfl
          · intro _ other
            rw [hReady.quiet]
            exact List.not_mem_nil
          · exact nofun
        refine (Observes.mapError (backend_acts rfl hLawful)).bind
          fun _ now _ => ?_
        exact Observes.ask_iff.mpr
          ⟨allowed_of_harmless rfl, fun _ =>
            Observes.done_iff.mpr trivial⟩
    · exact Observes.failed
  unfold Attaching.attach
  split
  · exact hAttach hSeen
  · refine (untilMet_observes _ _ _).bind fun ready now h => ?_
    exact hAttach ⟨h.2.latest, h.2.quiet.trans hSeen.quiet⟩

theorem awaitAttachment_observes
    (settings : Settings)
    (nodeId : String) :
    ActsLawfully subject
      (Attaching.awaitAttachment settings volumeId nodeId)
      past := by
  unfold Attaching.awaitAttachment
  refine (Observes.mapError (untilMet_observes _ _ _)).bind
    fun disk now _ => ?_
  split
  · exact Observes.done_iff.mpr trivial
  · exact Observes.failed

/- One detachment after the other leaves the volume as seen. -/
theorem detachAll_observes
    (instances : List String)
    (hPermitted :
      ∃ disk ∈ latest volumeId past,
        disk.status.permits .detach = true)
    (hUnattached :
      ∀ other, (Disk.Action.attach, other) ∉ performed past) :
    ActsLawfully (some volumeId)
      (Attaching.detachAll volumeId instances) past := by
  induction instances generalizing past with
  | nil => exact Observes.done_iff.mpr trivial
  | cons instanceId instances ih =>
      have hDetach :
          Lawful (some volumeId) .detach volumeId past :=
        ⟨hPermitted, fun _ => rfl, nofun, fun _ => hUnattached⟩
      refine (Observes.mapError (backend_acts rfl hDetach)).bind
        fun _ now hNow => ?_
      subst hNow
      refine ih ?_ fun other => ?_
      · rw [Host.latest_cons_of_blind rfl]
        exact hPermitted
      · rw [Host.performed_cons]
        intro hOther
        rcases List.mem_append.mp hOther with hNew | hOld
        · simp [Host.Request.action?, Backend.Call.action?] at hNew
        · exact hUnattached other hOld

theorem permits_of_assess
    {nodeId : String}
    {instances : List String}
    (h :
      Attaching.assess disk nodeId = .elsewhere instances) :
    disk.status.permits .detach = true := by
  unfold Attaching.assess at h
  split at h
  · split at h
    · exact nomatch h
    · split at h <;> exact nomatch h
  · split at h
    · split at h <;> exact nomatch h
    · split at h
      · next hPermitted => exact hPermitted
      · exact nomatch h

/- The volume is still as seen once the node can take it. -/
theorem admitted_observes
    {α : Type}
    (nodeId : String)
    {now : Record}
    {rest : Program Host Csi.PublishVolume.Error α}
    (hSeen : Seen volumeId past disk now)
    (hRest :
      ∀ now, Seen volumeId past disk now →
        ActsLawfully subject rest now) :
    ActsLawfully subject
      ((Attaching.getLimits nodeId disk.diskType).bind
        fun limits =>
          (Program.ofExcept (Attaching.checkLimits nodeId disk
            volumeId limits)).bind fun _ => rest)
      now := by
  have hAsked :
      Acts subject
        (fun _ later =>
          performed later = performed now ∧
            latest volumeId later = latest volumeId now)
        (Attaching.getLimits nodeId disk.diskType) now :=
    getLimits_observes nodeId disk.diskType
  refine hAsked.bind fun limits later hLater => ?_
  rcases hLater with ⟨hQuiet, hLatest⟩
  have hStill : Seen volumeId past disk later := by
    constructor
    · rw [hLatest]
      exact hSeen.latest
    · exact hQuiet.trans hSeen.quiet
  refine (Observes.ofExcept _).bind fun _ now hNow => ?_
  rw [hNow.2]
  exact hRest later hStill

theorem publish_observes
    (settings : Settings)
    (request : Csi.PublishVolume.Request) :
    ActsLawfully (some request.volumeId)
      (Attaching.publish settings request) [] := by
  unfold Attaching.publish
  split
  · exact Observes.failed
  · refine (Observes.checked _).bind fun _ now hNow => ?_
    rcases hNow with ⟨_, rfl⟩
    refine (getVolume_observes _).bind fun disk now hSeen => ?_
    split
    · exact Observes.done_iff.mpr trivial
    · exact Observes.failed
    · next instances hElsewhere =>
        have hDetach :
            ActsLawfully (some request.volumeId)
              (Attaching.detachAll request.volumeId instances)
              now := by
          refine detachAll_observes instances
            ⟨disk, hSeen.latest, permits_of_assess hElsewhere⟩
            fun other => ?_
          rw [hSeen.quiet]
          exact List.not_mem_nil
        refine (Observes.mapError hDetach).bind fun _ _ _ => ?_
        exact Observes.failed
    · refine admitted_observes _ hSeen
        fun now hAdmitted => ?_
      exact awaitAttachment_observes settings _
    · refine admitted_observes _ hSeen
        fun now hAdmitted => ?_
      refine (Observes.mapError
        (attach_observes settings _ hAdmitted)).bind
          fun _ _ _ => ?_
      exact awaitAttachment_observes settings _

theorem unpublishFrom_observes
    (settings : Settings)
    (nodeId : String)
    {now : Record}
    (hSeen : Seen volumeId [] disk now) :
    ActsLawfully (some volumeId)
      (Attaching.unpublishFrom settings volumeId nodeId disk)
      now := by
  unfold Attaching.unpublishFrom
  split
  · exact Observes.done_iff.mpr trivial
  · next hInUse =>
      split
      · exact Observes.failed
      · split
        · exact Observes.done_iff.mpr trivial
        · have hDetach :
              Lawful (some volumeId) .detach volumeId now := by
            constructor
            · refine ⟨disk, hSeen.latest, ?_⟩
              rw [not_not.mp hInUse]
              rfl
            · exact fun _ => rfl
            · exact nofun
            · intro _ other
              rw [hSeen.quiet]
              exact List.not_mem_nil
          refine (Observes.mapError (Observes.mapError
            (backend_acts rfl hDetach))).bind fun _ now _ => ?_
          refine (Observes.mapError
            (untilMet_observes _ _ _)).bind fun _ _ _ => ?_
          exact Observes.done_iff.mpr trivial

theorem unpublish_observes
    (settings : Settings)
    (request : Csi.UnpublishVolume.Request) :
    ActsLawfully (some request.volumeId)
      (Attaching.unpublish settings request) [] := by
  refine Observes.ask_iff.mpr
    ⟨allowed_of_harmless rfl, fun reply => ?_⟩
  cases reply with
  | ok disk =>
      exact unpublishFrom_observes settings _ (seen_get rfl)
  | error error =>
      dsimp only [Program.done_bind]
      split
      · exact Observes.done_iff.mpr trivial
      · exact Observes.failed

------------------------------------------------------------
-- Growing
------------------------------------------------------------

theorem growTo_observes
    (settings : Settings)
    (size : Nat)
    {now : Record}
    (hSeen : Seen volumeId past disk now) :
    ActsLawfully (some volumeId)
      (Growing.growTo settings volumeId size disk) now := by
  unfold Growing.growTo
  split
  · next hPermitted =>
      have hExpand :
          Lawful (some volumeId) .expand volumeId now :=
        ⟨⟨disk, hSeen.latest, hPermitted⟩, fun _ => rfl, nofun,
          nofun⟩
      refine (Observes.mapError (backend_acts rfl hExpand)).bind
        fun _ now _ => ?_
      refine (untilMet_observes _ _ _).bind fun _ _ _ => ?_
      exact Observes.done_iff.mpr trivial
  · exact Observes.failed

theorem expandTo_observes
    (settings : Settings)
    (size : Nat) :
    ActsLawfully (some volumeId)
      (Growing.expandTo settings volumeId size)
      [⟨.acquire, ()⟩] := by
  refine (getVolume_observes _).bind fun disk now hSeen => ?_
  split
  · exact Observes.done_iff.mpr trivial
  · refine (Observes.mapError
      (growTo_observes settings size hSeen)).bind fun _ _ _ => ?_
    exact Observes.done_iff.mpr trivial

theorem expand_observes
    (settings : Settings)
    (request : Csi.ExpandVolume.Request) :
    ActsLawfully (some request.volumeId)
      (Growing.expand settings request) [] := by
  unfold Growing.expand
  split
  · split
    · exact Observes.failed
    · next size _ =>
        exact Observes.exclusively (expandTo_observes settings size)
          (allowed_of_harmless rfl) (fun _ => allowed_of_harmless rfl)
          fun _ _ _ => trivial
  · exact Observes.failed

------------------------------------------------------------
-- Creating
------------------------------------------------------------

/- Deletions leave the volumes as they were found. -/
theorem removeAll_observes
    {removed : List Disk}
    (h :
      ∀ disk ∈ removed,
        disk ∈ latest disk.id past ∧
          disk.status.permits .delete = true) :
    ActsLawfully subject (Duplicates.removeAll removed) past := by
  induction removed generalizing past with
  | nil => exact Observes.done_iff.mpr trivial
  | cons disk removed ih =>
      have hDelete :
          Lawful subject .delete disk.id past := by
        rcases h disk (List.mem_cons_self ..) with
          ⟨hLatest, hPermitted⟩
        exact ⟨⟨disk, hLatest, hPermitted⟩, nofun, nofun, nofun⟩
      have hRest :
          ∀ reply,
            ActsLawfully subject (Duplicates.removeAll removed)
              (⟨.backend (.delete disk.id), reply⟩ :: past) := by
        intro reply
        refine ih fun other hOther => ?_
        rw [Host.latest_cons_of_blind rfl]
        exact h other (List.mem_cons_of_mem disk hOther)
      refine Observes.ask_iff.mpr
        ⟨allowed_of_lawful rfl hDelete, fun reply => ?_⟩
      cases reply with
      | ok _ => exact hRest (.ok ())
      | error error =>
          dsimp only [Program.done_bind]
          split
          · exact hRest (.error error)
          · exact Observes.failed

theorem resolve_observes
    (settings : Settings)
    (name : String)
    (size : Nat)
    {disks : List Disk}
    (hSeen : ∀ disk ∈ disks, disk ∈ latest disk.id past) :
    ActsLawfully subject
      (Duplicates.resolve settings name size disks) past := by
  refine Observes.ask_iff.mpr
    ⟨allowed_of_harmless rfl, fun clock => ?_⟩
  refine (Observes.ofExcept _).bind fun plan now hPlan => ?_
  rcases hPlan with ⟨hPlan, rfl⟩
  have hRemove :
      ActsLawfully subject (Duplicates.removeAll plan.remove)
        (⟨.wallClock, clock⟩ :: past) := by
    refine removeAll_observes fun disk hDisk => ?_
    have hMem : disk ∈ disks :=
      (Duplicates.perm_of_plan hPlan).mem_iff.mp
        (List.mem_cons_of_mem _ hDisk)
    constructor
    · rw [Host.latest_cons_of_blind rfl]
      exact hSeen disk hMem
    · exact Duplicates.permits_of_plan hPlan hDisk
  refine hRemove.bind fun _ now _ => ?_
  exact Observes.done_iff.mpr trivial

/- Only volumes that were just found are deleted. -/
theorem findExisting_observes
    (settings : Settings)
    (name : String)
    (size : Nat) :
    ActsLawfully subject
      (Creation.findExisting settings name size) past := by
  unfold Creation.findExisting
  refine (Observes.mapError (Observes.mapError (Observes.backend
    (allowed_of_harmless rfl)))).bind fun disks now hNow => ?_
  subst hNow
  split
  · exact Observes.done_iff.mpr trivial
  · refine (Observes.ofExcept _).bind fun _ _ _ => ?_
    exact Observes.done_iff.mpr trivial
  · next several =>
      have hResolve :
          ActsLawfully subject
            (Duplicates.resolve settings name size
              (disks.filter fun disk => disk.status != .deleting))
            (⟨.backend (.find name), .ok disks⟩ :: past) := by
        refine resolve_observes settings name size
          fun disk hDisk => ?_
        exact Host.mem_latest_find (List.mem_of_mem_filter hDisk)
      refine (Observes.mapError hResolve).bind
        fun disk now _ => ?_
      refine (Observes.ofExcept _).bind fun _ _ _ => ?_
      exact Observes.done_iff.mpr trivial

theorem next_quiet
    (role storageClass : String) :
    Quiet (Zones.next role storageClass) past := by
  refine Observes.ask_iff.mpr ⟨rfl, fun reply => ?_⟩
  cases reply with
  | error error => exact Observes.failed
  | ok nodes =>
      change Observes _ _
        (if (Zones.ofNodes nodes).isEmpty then _ else _) _
      split
      · exact Observes.failed
      · refine Observes.ask_iff.mpr ⟨rfl, fun turn => ?_⟩
        exact Observes.done_iff.mpr trivial

theorem choose_quiet
    (role : String)
    (parameters : Parameters)
    (requirement : Option Csi.TopologyRequirement) :
    Quiet (Zones.choose role parameters requirement) past := by
  unfold Zones.choose
  split
  · exact Observes.done_iff.mpr trivial
  · exact Observes.done_iff.mpr trivial
  · exact next_quiet role parameters.classKey

theorem tryTypes_quiet
    (specOf : String → Backend.CreateSpec)
    (last : Backend.Error)
    (diskTypes : List String) :
    Quiet (Creation.tryTypes specOf last diskTypes) past := by
  induction diskTypes generalizing past last with
  | nil => exact Observes.failed
  | cons diskType diskTypes ih =>
      refine Observes.ask_iff.mpr ⟨rfl, fun reply => ?_⟩
      cases reply with
      | ok id => exact Observes.done_iff.mpr trivial
      | error error =>
          dsimp only [Program.done_bind]
          split
          · exact ih error
          · exact Observes.failed

/- A new volume is created without a change to any other. -/
theorem createNew_quiet
    (settings : Settings)
    (request : Csi.CreateVolume.Request)
    (order : Creation.Order) :
    Quiet (Creation.createNew settings request order) past := by
  refine (Observes.mapError (choose_quiet _ _ _)).bind
    fun zone now _ => ?_
  refine (Observes.mapError (Observes.mapError
    (tryTypes_quiet _ _ _))).bind fun _ now _ => ?_
  exact Observes.done_iff.mpr trivial

theorem create_observes
    (settings : Settings)
    (request : Csi.CreateVolume.Request) :
    ActsLawfully subject
      (Creation.create settings request) [] := by
  rw [Creation.create_eq]
  refine (Observes.checked _).bind fun order now _ => ?_
  refine (findExisting_observes settings _ _).bind
    fun found now _ => ?_
  cases found with
  | some disk => exact Observes.done_iff.mpr trivial
  | none =>
      exact (createNew_quiet settings request order).relax
        allowed_of_harmless

------------------------------------------------------------
-- Reporting
------------------------------------------------------------

theorem list_observes
    (settings : Settings)
    (request : Csi.ListVolumes.Request) :
    ActsLawfully subject
      (Reporting.list settings request) past := by
  unfold Reporting.list
  split
  · exact Observes.failed
  · refine (Observes.mapError (Observes.mapError
      (Observes.backend (allowed_of_harmless rfl)))).bind fun _ _ _ => ?_
    exact Observes.done_iff.mpr trivial

theorem nodeCondition_observes
    (instances : List String) :
    ActsLawfully subject
      (Reporting.nodeCondition instances) past := by
  induction instances generalizing past with
  | nil => exact Observes.done_iff.mpr trivial
  | cons instanceId instances ih =>
      refine Observes.ask_iff.mpr
        ⟨allowed_of_harmless rfl, fun reply => ?_⟩
      cases reply with
      | error error => exact Observes.failed
      | ok node =>
          cases node with
          | none => exact Observes.done_iff.mpr trivial
          | some node =>
              change Observes _ _
                (if node.ready then _ else _) _
              split
              · exact ih
              · exact Observes.done_iff.mpr trivial

theorem get_observes
    (settings : Settings)
    (request : Csi.GetVolume.Request) :
    ActsLawfully subject
      (Reporting.get settings request) past := by
  refine (getVolume_observes _).bind fun disk now _ => ?_
  have hState :
      ActsLawfully subject
        (Reporting.stateOf request.volumeId disk) now := by
    unfold Reporting.stateOf
    split
    · exact Observes.done_iff.mpr trivial
    · refine (nodeCondition_observes _).bind fun _ _ _ => ?_
      exact Observes.done_iff.mpr trivial
    · exact Observes.done_iff.mpr trivial
  refine (Observes.mapError hState).bind fun _ _ _ => ?_
  exact Observes.done_iff.mpr trivial

------------------------------------------------------------
-- Messages
------------------------------------------------------------

theorem procedure_observes
    {ρ ε α β : Type}
    {name : String}
    {status : ε → Rpc.Status}
    {write : α → β}
    {handle : ρ → Program Host ε α}
    {request : Except Rpc.Status ρ}
    (h :
      ∀ read, request = .ok read →
        ActsLawfully subject (handle read) past) :
    ActsLawfully subject
      (Csi.procedure name status write (some handle) request)
      past := by
  cases request with
  | error refusal => exact Observes.failed
  | ok read =>
      refine (Observes.mapError (h read rfl)).bind fun _ _ _ => ?_
      exact Observes.done_iff.mpr trivial

/- Every message but a plain deletion is handled lawfully. -/
theorem serve_observes
    (settings : Settings)
    (message : Csi.Controller.Message)
    (hMessage : ∀ request, message ≠ .delete request) :
    ActsLawfully message.subject?
      ((provisioner settings).serve message) [] := by
  cases message with
  | create message =>
      exact procedure_observes fun request _ =>
        create_observes settings request
  | publish message =>
      refine procedure_observes fun request hRead => ?_
      have hId := Csi.PublishVolume.Request.ids_of_ofMessage hRead
      change ActsLawfully (some message.volumeId) _ _
      rw [← hId.1]
      exact publish_observes settings request
  | unpublish request =>
      refine procedure_observes fun checked hCheck => ?_
      rw [Csi.UnpublishVolume.Request.eq_of_check hCheck]
      exact unpublish_observes settings request
  | expand message =>
      refine procedure_observes fun request hRead => ?_
      have hId :=
        Csi.ExpandVolume.Request.volumeId_of_ofMessage hRead
      change ActsLawfully (some message.volumeId) _ _
      rw [← hId]
      exact expand_observes settings request
  | delete request => exact absurd rfl (hMessage request)
  | validate message =>
      refine procedure_observes fun request _ => ?_
      refine (getVolume_observes _).bind fun _ _ _ => ?_
      exact Observes.done_iff.mpr trivial
  | list message =>
      exact procedure_observes fun request _ =>
        list_observes settings request
  | get request =>
      exact procedure_observes fun request _ =>
        get_observes settings request
  | identity question => exact Observes.done_iff.mpr trivial
  | features => exact Observes.done_iff.mpr trivial
  | unoffered name => exact Observes.failed
  | unheardOf => exact Observes.failed

/-
  Whatever has been answered on the way, what a call does to a
  volume is lawful by its record when it is done.
-/
theorem serve_lawful
    (settings : Settings)
    {message : Csi.Controller.Message}
    (hMessage : ∀ request, message ≠ .delete request)
    {call : Backend.Call}
    {next : call.Reply →
      Program Host Rpc.Status Csi.Controller.Answer}
    {past : Record}
    (hReach :
      Program.Reaches Host.recorded
        ((provisioner settings).serve message, [])
        (.ask (I := Host) (.backend call) next, past))
    {action : Disk.Action}
    {id : String}
    (hAction : call.action? = some (action, id)) :
    Lawful message.subject? action id past := by
  have hKeeps := serve_observes settings message hMessage
  exact Program.Keeps.allowed_of_reaches hKeeps hReach
    action id hAction

/-
  A volume is attached after the second poll: by then it has
  become available, and the first poll had failed.
-/
theorem serve_lawful_attach :
    let message : Csi.Controller.Message :=
      .publish
        { volumeId := "vol-1"
          nodeId := "node-1"
          capability := some ⟨some 1, some (.mount "ext4" [])⟩ }
    let disk (status : Disk.Status) : Disk :=
      ⟨"vol-1", "pvc-1", 10, status, "cloud_ssd", "zone-a", [],
        0, []⟩
    let interval := ({} : Settings).polling.interval.pause
    let past : Record :=
      [⟨.backend (.get "vol-1"), .ok (disk .available)⟩,
        ⟨.sleep interval, ()⟩,
        ⟨.backend (.get "vol-1"), .error (.failed "busy")⟩,
        ⟨.backend (.attachedVolumes "node-1"), .ok []⟩,
        ⟨.backend (.checkAttach "node-1" "cloud_ssd"),
          .ok ⟨true, 4⟩⟩,
        ⟨.backend (.get "vol-1"), .ok (disk .creating)⟩]
    Lawful message.subject? .attach "vol-1" past := by
  intro message disk interval past
  have hMessage : ∀ request, message ≠ .delete request := nofun
  have hReach :
      ∃ next,
        Program.Reaches Host.recorded
          ((provisioner {}).serve message, [])
          (.ask (I := Host)
            (.backend (.attach "vol-1" "node-1")) next, past) := by
    apply Exists.intro
    refine .head (Host.step_reply (Except.ok (disk .creating))) ?_
    refine .head
      (Host.step_reply (Except.ok (Backend.AttachCheck.mk true 4)))
      ?_
    refine .head (Host.step_reply (Except.ok [])) ?_
    refine .head
      (Host.step_reply (Except.error (Backend.Error.failed "busy")))
      ?_
    refine .head (Host.step_reply ()) ?_
    refine .head (Host.step_reply (Except.ok (disk .available))) ?_
    exact .refl
  rcases hReach with ⟨next, hReach⟩
  exact serve_lawful {} hMessage hReach rfl

end Transitions

end Service

end BlockVolumes
