import BlockVolumes.Proofs.Transitions.Record
import BlockVolumes.Service.NodeAgent

/-
  What staging a volume asks of a mounter, whatever it replies.
  A device is formatted only right after it was found blank,
  and the failure of a call is what ends the staging.

  Key definitions include:
    * `Host.lastFailure?`
    * `Host.FormatsBlank`
    * `Service.Mounting.absence`
    * `Service.Mounting.Blamed`
    * `Service.Mounting.StageEnds`

  Key theorems include:
    * `Service.Mounting.call_bind_keeps`
    * `Service.Mounting.findDevice_keeps`
    * `Service.Mounting.mountStage_blames`
    * `Service.Mounting.stage_keeps`
-/

namespace BlockVolumes

namespace Host

------------------------------------------------------------
-- Failures of the Mounter
------------------------------------------------------------

/- How a call of the mounter failed, if this is one, and did. -/
def Exchange.mounterFailure? :
    Exchange → Option (Option Mount.Error)
  | ⟨.mounter _, .ok _⟩ => some none
  | ⟨.mounter _, .error error⟩ => some (some error)
  | _ => none

/- How the last call of the mounter failed, if it did. -/
def lastFailure?
    (past : Record) : Option Mount.Error :=
  (past.findSome? Exchange.mounterFailure?).join

variable {past : Record}

@[simp] theorem lastFailure?_release :
    lastFailure? (⟨.release, ()⟩ :: past) = lastFailure? past :=
  rfl

/- Replies are put on record as they are given. -/
theorem Replies.answers_recorded
    (replies : Replies)
    (request : Request)
    (past : Record) :
    recorded.Answers request past (replies.answer request past).1
      (replies.answer request past).2 :=
  rfl

------------------------------------------------------------
-- Rules
------------------------------------------------------------

/-
  The rule that a device is formatted only right after the
  mounter has said that it holds no data.
-/
def FormatsBlank
    (request : Request)
    (past : Record) : Prop :=
  ∀ device filesystem options,
    request = .mounter (.format device filesystem options) →
      ∃ earlier,
        past = ⟨.mounter (.isFormatted device), .ok false⟩ :: earlier

variable {ε α : Type}
variable {allowed : Request → Record → Prop}
variable {program : Program Host ε α}

/-
  A program that holds the lock keeps to what it does between
  getting the lock and giving it back, however it ends.
-/
theorem exclusively_keeps
    {wanted : Except ε α → Record → Prop}
    (hAcquire : allowed .acquire past)
    (hRelease : ∀ now, allowed .release now)
    (h :
      program.Keeps recorded allowed
        (fun result now => wanted result (⟨.release, ()⟩ :: now))
        (⟨.acquire, ()⟩ :: past)) :
    (Host.exclusively program).Keeps recorded allowed wanted
      past := by
  have hRest :
      ∀ result now,
        wanted result (⟨.release, ()⟩ :: now) →
          (Program.ask (I := Host) .release
              fun _ => Program.ofExcept result).Keeps
            recorded allowed wanted now := by
    intro result now hResult
    refine Program.Keeps.alone_ask.mpr ⟨hRelease now, ?_⟩
    rintro _ _ rfl
    refine Program.Keeps.ofExcept ?_
    rintro _ rfl
    exact hResult
  refine Program.Keeps.alone_ask.mpr ⟨hAcquire, ?_⟩
  rintro _ _ rfl
  change (program.attempt.bind _).Keeps recorded allowed wanted _
  exact Program.Keeps.andThen (Program.Keeps.attempt h) hRest

end Host

namespace Service

namespace Mounting

open Host (FormatsBlank Record lastFailure? recorded)

------------------------------------------------------------
-- Calls
------------------------------------------------------------

section Calls

variable {α : Type}
variable {operation volumeId : String}
variable {request : Mount.Call}
variable {allowed : Host.Request → Record → Prop}
variable {past : Record}

/- A call goes on with its result, or else is what failed. -/
theorem call_bind_keeps
    {next : request.Result → Program Host Error α}
    {wanted : Except Error α → Record → Prop}
    (hAllowed : allowed (.mounter request) past)
    (hNext :
      ∀ result,
        (next result).Keeps recorded allowed wanted
          (⟨.mounter request, .ok result⟩ :: past))
    (hError :
      ∀ error,
        wanted (.error (.during operation volumeId (.mount error)))
          (⟨.mounter request, .error error⟩ :: past)) :
    ((call operation volumeId request).bind next).Keeps recorded
      allowed wanted past := by
  refine Program.Keeps.alone_ask.mpr ⟨hAllowed, ?_⟩
  rintro reply _ rfl
  cases reply with
  | ok result => exact hNext result
  | error error => exact Program.Keeps.alone_failed.mpr (hError error)

/-
  Whether a result is blamed on the right call: a failure on
  the last call of the mounter, and a success on none.
-/
def Blamed : Except Error α → Record → Prop
  | .ok _, now => lastFailure? now = none
  | .error error, now =>
      ∃ operation subject cause,
        error = .during operation subject (.mount cause) ∧
          lastFailure? now = some cause

/- Whether a program keeps to the rules and is blamed rightly. -/
abbrev Blames
    (program : Program Host Error α)
    (past : Record) : Prop :=
  program.Keeps recorded FormatsBlank Blamed past

theorem call_bind_blames
    {next : request.Result → Program Host Error α}
    (hAllowed : FormatsBlank (.mounter request) past)
    (hNext :
      ∀ result,
        Blames (next result)
          (⟨.mounter request, .ok result⟩ :: past)) :
    Blames ((call operation volumeId request).bind next) past :=
  call_bind_keeps hAllowed hNext fun _ => ⟨_, _, _, rfl, rfl⟩

theorem call_blames
    (hAllowed : FormatsBlank (.mounter request) past) :
    Blames (call operation volumeId request) past := by
  rw [← Program.bind_done (call operation volumeId request)]
  exact call_bind_blames hAllowed fun _ =>
    Program.Keeps.alone_done.mpr rfl

end Calls

------------------------------------------------------------
-- Devices
------------------------------------------------------------

/-
  The record of a device that is missing, both before and
  after the events of the devices are repeated.
-/
def absence
    (settle : Duration)
    (device : Path) : Record :=
  [⟨.mounter (.pathExists device), .ok false⟩,
    ⟨.sleep settle.pause, ()⟩,
    ⟨.mounter .triggerDevices, .ok ()⟩,
    ⟨.mounter (.pathExists device), .ok false⟩]

variable {volumeId : String}
variable {device : Path}
variable {past : Record}

/- A device is there, or missing for good, or a call fails. -/
theorem findDevice_keeps
    (settle : Duration) :
    (findDevice settle volumeId device).Keeps recorded FormatsBlank
      (fun result now =>
        Blamed result now ∧
          (result = .ok false →
            now = absence settle device ++ past))
      past := by
  refine call_bind_keeps nofun ?_ ?_
  · intro found
    cases found with
    | true => exact Program.Keeps.alone_done.mpr ⟨rfl, nofun⟩
    | false =>
        refine call_bind_keeps nofun ?_ ?_
        · intro _
          refine Program.Keeps.alone_ask.mpr ⟨nofun, ?_⟩
          rintro _ _ rfl
          rw [← Program.bind_done (deviceExists volumeId device)]
          refine call_bind_keeps nofun ?_ ?_
          · intro foundNow
            refine Program.Keeps.alone_done.mpr ⟨rfl, ?_⟩
            rintro ⟨⟩
            rfl
          · exact fun error => ⟨⟨_, _, _, rfl, rfl⟩, nofun⟩
        · exact fun error => ⟨⟨_, _, _, rfl, rfl⟩, nofun⟩
  · exact fun error => ⟨⟨_, _, _, rfl, rfl⟩, nofun⟩

------------------------------------------------------------
-- Formatting and Mounting
------------------------------------------------------------

/- A device that holds data is not formatted. -/
theorem formatIfBlank_blames
    {plan : StagePlan}
    (hPast : lastFailure? past = none) :
    Blames (formatIfBlank volumeId plan) past := by
  unfold formatIfBlank
  split
  · exact Program.Keeps.alone_done.mpr hPast
  · refine call_bind_blames nofun fun formatted => ?_
    cases formatted with
    | true => exact Program.Keeps.alone_done.mpr rfl
    | false =>
        refine call_blames ?_
        rintro _ _ _ ⟨⟩
        exact ⟨past, rfl⟩

theorem mountStage_blames
    {staging : Path}
    {plan : StagePlan}
    (hPast : lastFailure? past = none) :
    Blames (mountStage volumeId staging plan) past := by
  have hMount :
      ∀ (_ : Unit) now, lastFailure? now = none →
        Blames
          (do
            if ← isMounted "check staging mount of" volumeId staging
            then return ()
            else
              call "mount staging path of" volumeId
                (.mount (some plan.device) staging plan.filesystem
                  plan.flags []))
          now := by
    intro _ now _
    refine call_bind_blames nofun fun mounted => ?_
    cases mounted with
    | true => exact Program.Keeps.alone_done.mpr rfl
    | false => exact call_blames nofun
  refine Program.Keeps.andThen
    ((formatIfBlank_blames hPast).mono ?_) hMount
  rintro (error | _) now hBlamed
  · exact hBlamed
  · exact hBlamed

------------------------------------------------------------
-- Staging
------------------------------------------------------------

/-
  How the staging of a volume ends: it goes well, or a call of
  the mounter fails, or the device is missing, or the request
  is refused before anything is asked.
-/
inductive StageEnds
    (settle : Duration)
    (device : Path) :
    Except Csi.NodeStage.Error Unit → Record → Prop where
  | staged
      {now : Record}
      (h : lastFailure? now = none) :
      StageEnds settle device (.ok ()) (⟨.release, ()⟩ :: now)
  | failed
      {operation subject : String}
      {cause : Mount.Error}
      {now : Record}
      (h : lastFailure? now = some cause) :
      StageEnds settle device
        (.error (raise (.during operation subject (.mount cause))))
        now
  | missing
      {detail : String} :
      StageEnds settle device (.error (.volumeMissing detail))
        (absence settle device)
  | refused
      {status : Rpc.Status}
      (h : status.code ≠ .notFound) :
      StageEnds settle device
        (.error (RpcError.ofStatus status)) []

/- A failed part of staging is reported with its last call. -/
theorem StageEnds.of_blamed
    {settle : Duration}
    {error : Error}
    {now : Record}
    (h : Blamed (α := Unit) (.error error) now) :
    StageEnds settle device (.error (raise error)) now := by
  rcases h with ⟨operation, subject, cause, rfl, hLast⟩
  exact .failed hLast

/- Whatever is found there, a device is mounted under the lock. -/
theorem mountStage_held_keeps
    {settle : Duration}
    {staging : Path}
    {plan : StagePlan}
    (hPast : lastFailure? past = none) :
    (Host.exclusively
        (within (mountStage volumeId staging plan))
      : Program Host Csi.NodeStage.Error Unit).Keeps recorded
      FormatsBlank (StageEnds settle device) past := by
  have hHeld : lastFailure? (⟨.acquire, ()⟩ :: past) = none := hPast
  refine Host.exclusively_keeps nofun (fun _ => nofun)
    (Program.Keeps.mapError ((mountStage_blames hHeld).mono ?_))
  rintro (error | _) now hBlamed
  · exact .of_blamed hBlamed
  · exact .staged hBlamed

/- The refusal of a capability is not for want of anything. -/
theorem code_ne_notFound_of_check
    {capability : Csi.Capability}
    {status : Rpc.Status}
    (h : capability.check = .error status) :
    status.code ≠ .notFound := by
  unfold Csi.Capability.check at h
  split at h
  · cases h
    exact nofun
  · split at h
    · exact nomatch h
    · cases h
      exact nofun

/-
  Whatever the replies, staging keeps to the rules and ends in
  one of these ways.
-/
theorem stage_keeps
    (settings : Settings)
    (premium : Pattern)
    (request : Csi.NodeStage.Request) :
    (stage settings premium request).Keeps recorded FormatsBlank
      (StageEnds settings.deviceSettle
        (planStage settings premium request).device)
      [] := by
  let plan := planStage settings premium request
  have hRest :
      ∀ found now,
        found = true ∧ lastFailure? now = none ∨
            found = false ∧
              now = absence settings.deviceSettle plan.device →
          (if found = true then
              Host.exclusively
                (within (mountStage request.volumeId
                  request.stagingPath plan))
            else
              throw (.volumeMissing
                ("device of volume " ++ request.volumeId ++
                  " did not appear under " ++ Device.directory.text))
            : Program Host Csi.NodeStage.Error Unit).Keeps
            recorded FormatsBlank
            (StageEnds settings.deviceSettle plan.device) now := by
    rintro _ now (⟨rfl, hNow⟩ | ⟨rfl, rfl⟩)
    · exact mountStage_held_keeps hNow
    · exact Program.Keeps.alone_failed.mpr .missing
  unfold stage
  cases hCheck : request.capability.check with
  | error status =>
      exact Program.Keeps.alone_failed.mpr
        (.refused (code_ne_notFound_of_check hCheck))
  | ok _ =>
      change (Program.bind (within (findDevice settings.deviceSettle
        request.volumeId plan.device)) _).Keeps _ _ _ _
      refine Program.Keeps.andThen (Program.Keeps.mapError
        ((findDevice_keeps settings.deviceSettle).mono ?_)) hRest
      rintro (error | found) now ⟨hBlamed, hMissing⟩
      · exact .of_blamed hBlamed
      · cases found with
        | true => exact .inl ⟨rfl, hBlamed⟩
        | false => exact .inr ⟨rfl, by simpa using hMissing rfl⟩

/- The whole procedure asks what staging does, if anything. -/
theorem serve_stage_keeps
    (settings : Settings)
    (premium : Pattern)
    (isDirectory : Path → Bool)
    (message : Csi.NodeStage.Message) :
    ((nodeAgent settings premium).serve isDirectory
        (.stage message)).Keeps recorded FormatsBlank
      (fun _ _ => True) [] := by
  change (Csi.procedure _ Csi.NodeStage.Error.status _
    (some (stage settings premium))
    (Csi.NodeStage.Request.ofMessage isDirectory message)).Keeps
      _ _ _ _
  cases Csi.NodeStage.Request.ofMessage isDirectory message with
  | error refusal => exact Program.Keeps.alone_failed.mpr trivial
  | ok request =>
      have hWrite :
          ∀ (_ : Unit) (now : Record), True →
            (Program.done .staged
              : Program Host Rpc.Status Csi.Node.Answer).Keeps
              recorded FormatsBlank (fun _ _ => True) now :=
        fun _ _ _ => Program.Keeps.alone_done.mpr trivial
      refine Program.Keeps.andThen (Program.Keeps.mapError
        ((stage_keeps settings premium request).mono ?_)) hWrite
      rintro (error | _) now _
      · trivial
      · trivial

end Mounting

end Service

end BlockVolumes
