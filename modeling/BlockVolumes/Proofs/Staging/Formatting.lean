import BlockVolumes.Proofs.Csi.Reading
import BlockVolumes.Proofs.Memory.Mounter
import BlockVolumes.Proofs.Program.Crew
import BlockVolumes.Service.NodeAgent

/-
  Calls that stage and unstage volumes side by side, in the
  surroundings in memory. No device that holds data is ever
  formatted, because a call holds the lock from its look at
  the device until it has formatted and mounted it.

  Key definitions include:
    * `Formatting.around`
    * `Formatting.timesFormatted`
    * `Formatting.guard`
    * `Formatting.Allowed`
    * `Formatting.Call`

  Key theorems include:
    * `Formatting.holds`
    * `Formatting.mountStage_within`
    * `Formatting.keep_of_calls`
    * `Formatting.devices_formatted_once`
-/

namespace BlockVolumes

namespace Formatting

open Host (Crew Guard Request)
open Memory (Action Mounter World)
open Service

------------------------------------------------------------
-- The Surroundings
------------------------------------------------------------

/- The surroundings in memory answer each request at once. -/
def Answers
    (request : Request)
    (world : World)
    (reply : Host.Reply request)
    (after : World) : Prop :=
  world.answer request = (reply, after)

/- Others may change the files of the node at any time. -/
def around : Surroundings Host World :=
  { Answers := Answers
    Drifts := fun before now => now = { before with tree := now.tree }
    refl := fun _ => rfl
    trans := by
      intro first second third hFirst hSecond
      rw [hSecond, hFirst] }

------------------------------------------------------------
-- What the Lock Guards
------------------------------------------------------------

/- Whether an action formats a device. -/
def formatsDevice
    (device : Path) : Action → Bool
  | .formatted other _ => decide (Path.Same other device)
  | _ => false

/- How often a device is formatted in some actions. -/
def timesFormatted
    (device : Path)
    (actions : List Action) : Nat :=
  actions.countP (formatsDevice device)

/- One for a device that holds data, and zero for a blank one. -/
def dataOn
    (world : World)
    (device : Path) : Nat :=
  (world.mounter.format? device).isSome.toNat

/-
  Whether devices have been formatted only once and only while
  they were blank, and no data has been lost.
-/
def Spares
    (before now : World) : Prop :=
  ∃ actions,
    now.mounter.log = before.mounter.log ++ actions ∧
      ∀ device,
        timesFormatted device actions + dataOn before device ≤
          dataOn now device

theorem Spares.refl
    (world : World) :
    Spares world world :=
  ⟨[], (List.append_nil _).symm, fun device => by
    simp [timesFormatted]⟩

theorem Spares.trans
    {first second third : World}
    (hFirst : Spares first second)
    (hSecond : Spares second third) :
    Spares first third := by
  rcases hFirst with ⟨actions, hLog, hOnce⟩
  rcases hSecond with ⟨later, hLater, hStill⟩
  refine ⟨actions ++ later, ?_, fun device => ?_⟩
  · rw [hLater, hLog, List.append_assoc]
  · have hBefore := hOnce device
    have hAfter := hStill device
    unfold timesFormatted at *
    rw [List.countP_append]
    omega

/- Without the lock nothing is formatted. -/
def guard : Guard World :=
  { Quiet := fun before now =>
      Spares before now ∧
        now.mounter.formats = before.mounter.formats
    Loud := Spares
    quiet_refl := fun world => ⟨.refl world, rfl⟩
    quiet_trans := fun hFirst hSecond =>
      ⟨hFirst.1.trans hSecond.1, hSecond.2.trans hFirst.2⟩
    loud_trans := Spares.trans
    loud_of_quiet := And.left }

/- A device keeps its data during quiet changes. -/
theorem format?_of_quiet
    {before now : World}
    (h : guard.Quiet before now)
    (device : Path) :
    now.mounter.format? device = before.mounter.format? device := by
  unfold Mounter.format?
  rw [h.2]

/- Changes of the files matter to nobody. -/
theorem quiet_of_drift
    {before now : World}
    (h : around.Drifts before now) :
    guard.Quiet before now := by
  have hEq : now = { before with tree := now.tree } := h
  rw [hEq]
  exact ⟨⟨[], (List.append_nil _).symm, fun device => by
    simp [timesFormatted, dataOn]⟩, rfl⟩

------------------------------------------------------------
-- Answers
------------------------------------------------------------

variable {world after : World}
variable {request : Request}

/- Whatever a request is but one to format, it is quiet. -/
theorem quiet_of_answer
    {reply : Host.Reply request}
    (hOther :
      ∀ device filesystem options,
        request ≠ .mounter (.format device filesystem options))
    (hAnswer : Answers request world reply after) :
    guard.Quiet world after := by
  have hAfter : after = (world.answer request).2 := by
    rw [hAnswer]
  have hFormats : after.mounter.formats = world.mounter.formats := by
    cases request with
    | mounter call =>
        rcases World.callMounter_cases hAnswer with ⟨_, hCase⟩
        rcases hCase with ⟨_, _, hSame⟩ | hCall
        · rw [hSame]
        · have hKept :=
            Mounter.formats_of_call world.mounter world.tree
              fun device filesystem options hEq =>
                hOther device filesystem options
                  (congrArg Request.mounter hEq)
          rw [hCall] at hKept
          exact hKept
    | _ =>
        rw [hAfter, World.mounter_of_answer]
        nofun
  refine ⟨⟨(world.actionOf? request).toList, ?_, ?_⟩, hFormats⟩
  · rw [hAfter, World.log_of_answer]
  · intro device
    have hNone :
        timesFormatted device (world.actionOf? request).toList = 0 := by
      unfold timesFormatted
      rw [List.countP_eq_zero]
      intro action hAction
      cases action with
      | formatted other filesystem =>
          rcases World.call_of_action
            (Option.mem_toList.mp hAction) with ⟨call, rfl, hCall⟩
          rcases Mounter.call_of_formatted hCall with
            ⟨name, options, rfl⟩
          exact absurd rfl (hOther other name options)
      | _ => exact nofun
    have hData : dataOn after device = dataOn world device := by
      unfold dataOn Mounter.format?
      rw [hFormats]
    omega

/- A look at a device shows whether it holds data. -/
theorem formatted_of_answer
    {device : Path}
    {formatted : Bool}
    (hAnswer :
      Answers (.mounter (.isFormatted device)) world (.ok formatted)
        after) :
    formatted = (after.mounter.format? device).isSome := by
  rcases World.callMounter_cases hAnswer with ⟨_, hCase⟩
  rcases hCase with ⟨_, hError, _⟩ | hCall
  · exact nomatch hError
  · rcases Prod.mk.inj hCall with ⟨hFormatted, hSame⟩
    rw [← hSame]
    exact (Except.ok.inj hFormatted).symm

/- A device may be formatted while it is blank. -/
theorem spares_of_format
    {device : Path}
    {filesystem : String}
    {options : List String}
    {reply : Except Mount.Error Unit}
    (hBlank : world.mounter.format? device = none)
    (hAnswer :
      Answers (.mounter (.format device filesystem options)) world
        reply after) :
    Spares world after ∧
      (reply = .ok () → (after.mounter.format? device).isSome) := by
  rcases World.callMounter_cases hAnswer with ⟨_, hCase⟩
  rcases hCase with ⟨error, rfl, hSame⟩ | hCall
  · refine ⟨⟨[], ?_, fun other => ?_⟩, nofun⟩
    · rw [hSame, List.append_nil]
    · simp [timesFormatted, dataOn, hSame]
  · have hAfter :
        after.mounter = world.mounter.format device filesystem := by
      have hEq := congrArg Prod.snd hCall
      exact hEq.symm
    have hData := Mounter.format?_format world.mounter device
    refine ⟨⟨_, congrArg Mounter.log hAfter, fun other => ?_⟩,
      fun _ => ?_⟩
    · unfold dataOn timesFormatted
      rw [hAfter, hData]
      by_cases hSame : Path.Same device other
      · have hNone : world.mounter.format? other = none := by
          rw [← Mounter.format?_of_same _ hSame]
          exact hBlank
        simp [formatsDevice, hSame, hNone]
      · simp [formatsDevice, hSame]
    · rw [hAfter, hData]
      simp [Path.Same.refl]

------------------------------------------------------------
-- The Contract of a Call
------------------------------------------------------------

variable {settings : Settings}
variable {premium : Pattern}

/- The device of the volume that a message is about. -/
def deviceOf
    (settings : Settings)
    (premium : Pattern)
    (message : Csi.NodeStage.Message) : Path :=
  Device.path premium message.volumeId
    (Mounting.diskTypeOf settings message.context)

/- Whether a message lets its device be formatted. -/
def MayFormat
    (message : Csi.NodeStage.Message) : Prop :=
  message.context.find? "skipFormat" ≠ some "true"

/-
  Whether a request may be put on behalf of a message. A device
  is formatted with the lock only, and only if it is blank. A
  device that may be formatted is mounted only with data on it.
-/
def Allowed
    (settings : Settings)
    (premium : Pattern)
    (order? : Option Csi.NodeStage.Message) :
    Request → Guard.View World → Prop
  | .mounter (.format device _ _), view =>
      view.2 = true ∧
        view.1.mounter.format? device = none ∧
        ∃ message,
          order? = some message ∧ MayFormat message ∧
            device = deviceOf settings premium message
  | .mounter (.mount source _ _ _ _), view =>
      ∃ message,
        order? = some message ∧
          source = some (deviceOf settings premium message) ∧
          (MayFormat message →
            (view.1.mounter.format?
              (deviceOf settings premium message)).isSome)
  | _, _ => True

/- Without the lock, no more than quiet changes are made. -/
theorem holds
    (order? : Option Csi.NodeStage.Message) :
    guard.Holds Answers (Allowed settings premium order?) := by
  intro request world held reply after hOpen hAllowed hAnswer
  by_cases hFormat :
      ∃ device filesystem options,
        request = .mounter (.format device filesystem options)
  · rcases hFormat with ⟨device, filesystem, options, rfl⟩
    rcases hAllowed with ⟨hHeld, hBlank, _⟩
    dsimp only at hHeld hBlank
    rw [hHeld]
    exact (spares_of_format hBlank hAnswer).1
  · refine Guard.others_of_quiet (quiet_of_answer ?_ hAnswer) _
    intro device filesystem options hEq
    exact hFormat ⟨device, filesystem, options, hEq⟩

------------------------------------------------------------
-- With the Lock
------------------------------------------------------------

variable {message : Csi.NodeStage.Message}
variable {volumeId operation : String}
variable {plan : Mounting.StagePlan}

/- What a message says about the staging of its volume. -/
structure Plans
    (settings : Settings)
    (premium : Pattern)
    (message : Csi.NodeStage.Message)
    (plan : Mounting.StagePlan) : Prop where
  device : plan.device = deviceOf settings premium message
  skips : plan.skipFormat = false ↔ MayFormat message

theorem plans_of_request
    {isDirectory : Path → Bool}
    {request : Csi.NodeStage.Request}
    (h :
      Csi.NodeStage.Request.ofMessage isDirectory message =
        .ok request) :
    Plans settings premium message
      (Mounting.planStage settings premium request) := by
  rcases Csi.NodeStage.Request.fields_of_ofMessage h with
    ⟨hVolume, hContext, _⟩
  constructor
  · simp only [Mounting.planStage, deviceOf, hVolume, hContext]
  · simp [Mounting.planStage, MayFormat, Mounting.skipFormatKey,
      hContext]

/- One call of the mounter while the lock is held. -/
theorem call_within
    (call : Mount.Call)
    {allowed : Request → Guard.View World → Prop}
    {middle : call.Result → World → Prop}
    (h :
      ∀ now, guard.Quiet world now →
        allowed (.mounter call) (now, true) ∧
          ∀ reply after, Answers (.mounter call) now reply after →
            ∀ result, reply = .ok result →
              ∀ later, guard.Quiet after later →
                middle result later) :
    guard.Within Answers allowed middle
      (Mounting.call operation volumeId call) world := by
  refine Guard.Within.mapError
    (Guard.Within.ask nofun fun now hNow => ?_)
  rcases h now hNow with ⟨hAllowed, hMiddle⟩
  exact ⟨hAllowed, fun reply after hAnswer =>
    Guard.Within.ofExcept (hMiddle reply after hAnswer)⟩

/- Whether the device holds data, unless it is to be left as it is. -/
abbrev Ready
    (plan : Mounting.StagePlan)
    (now : World) : Prop :=
  plan.skipFormat = false →
    (now.mounter.format? plan.device).isSome

/- A device that may be formatted holds data afterwards. -/
theorem formatIfBlank_within
    (hPlan : Plans settings premium message plan) :
    guard.Within Answers (Allowed settings premium (some message))
      (fun _ now => Ready plan now)
      (Mounting.formatIfBlank volumeId plan) world := by
  unfold Mounting.formatIfBlank
  split
  · next hSkip =>
      refine Guard.Within.done fun now _ hFormat => ?_
      rw [hSkip] at hFormat
      exact nomatch hFormat
  · next hFormat =>
      have hMay : MayFormat message :=
        hPlan.skips.mp (by simpa using hFormat)
      have hLook :
          guard.Within Answers
            (Allowed settings premium (some message))
            (fun formatted now =>
              formatted = (now.mounter.format? plan.device).isSome)
            (Mounting.isFormatted volumeId plan.device) world := by
        refine call_within (.isFormatted plan.device) fun now _ =>
          ⟨trivial, ?_⟩
        rintro reply after hAnswer formatted rfl later hLater
        rw [format?_of_quiet hLater]
        exact formatted_of_answer hAnswer
      refine hLook.bind fun formatted now hFormatted => ?_
      cases formatted with
      | true =>
          refine Guard.Within.done fun later hLater _ => ?_
          rw [format?_of_quiet hLater]
          exact hFormatted.symm
      | false =>
          refine call_within (.format plan.device _ _)
            fun later hLater => ?_
          have hBlank : later.mounter.format? plan.device = none := by
            rw [format?_of_quiet hLater]
            simpa using hFormatted
          constructor
          · exact ⟨rfl, hBlank, message, rfl, hMay, hPlan.device⟩
          · rintro reply after hAnswer result rfl last hLast _
            rw [format?_of_quiet hLast]
            exact (spares_of_format hBlank hAnswer).2 rfl

/- A device is mounted only when it is ready. -/
theorem mountStage_within
    {staging : Path}
    (hPlan : Plans settings premium message plan) :
    guard.Within Answers (Allowed settings premium (some message))
      (fun _ _ => True)
      (Mounting.mountStage volumeId staging plan) world := by
  have hMounted :
      ∀ now, Ready plan now →
        guard.Within Answers
          (Allowed settings premium (some message))
          (fun _ later => Ready plan later)
          (Mounting.isMounted "check staging mount of" volumeId
            staging) now := by
    intro now hReady
    refine call_within (.isMounted staging) fun later hLater =>
      ⟨trivial, ?_⟩
    intro reply after hAnswer _ _ last hLast hFormat
    have hQuiet : guard.Quiet later after := by
      refine quiet_of_answer ?_ hAnswer
      exact fun _ _ _ => nofun
    rw [format?_of_quiet hLast, format?_of_quiet hQuiet,
      format?_of_quiet hLater]
    exact hReady hFormat
  unfold Mounting.mountStage
  refine (formatIfBlank_within hPlan).bind fun _ now hReady => ?_
  refine (hMounted now hReady).bind fun mounted later hStill => ?_
  cases mounted with
  | true => exact Guard.Within.done fun _ _ => trivial
  | false =>
      refine call_within (.mount _ _ _ _ _) fun last hLast =>
        ⟨?_, fun _ _ _ _ _ _ _ => trivial⟩
      refine ⟨message, rfl, congrArg some hPlan.device, fun hMay => ?_⟩
      rw [← hPlan.device, format?_of_quiet hLast]
      exact hStill (hPlan.skips.mpr hMay)

------------------------------------------------------------
-- One Call
------------------------------------------------------------

variable {ε : Type}
variable {order? : Option Csi.NodeStage.Message}

/- What a program without the lock may do for a message. -/
abbrev Waits
    {α : Type}
    (settings : Settings)
    (premium : Pattern)
    (order? : Option Csi.NodeStage.Message)
    (program : Program Host ε α)
    (world : World) : Prop :=
  guard.Outside Answers (Allowed settings premium order?) program
    world

/- One call of the mounter while the lock is not held. -/
theorem call_waits
    (call : Mount.Call)
    (hAllowed :
      ∀ now,
        Allowed settings premium order? (.mounter call)
          (now, false)) :
    Waits settings premium order?
      (Mounting.call operation volumeId call) world :=
  Guard.Outside.mapError
    (Guard.Outside.ask nofun hAllowed fun _ _ =>
      Guard.Outside.ofExcept)

theorem findDevice_waits
    {settle : Duration}
    {device : Path} :
    Waits settings premium order?
      (Mounting.findDevice settle volumeId device) world := by
  have hLook :
      ∀ now,
        Waits settings premium order?
          (Mounting.deviceExists volumeId device) now :=
    fun now => call_waits (.pathExists device) fun _ => trivial
  unfold Mounting.findDevice
  refine (hLook world).bind fun there now => ?_
  cases there with
  | true => exact Guard.Outside.done
  | false =>
      refine Guard.Outside.bind
        (call_waits .triggerDevices fun _ => trivial)
        fun _ later => ?_
      refine Guard.Outside.ask nofun (fun _ => trivial)
        fun _ last => ?_
      exact hLook last

/- Staging formats and mounts only in its section. -/
theorem stage_waits
    {isDirectory : Path → Bool}
    {request : Csi.NodeStage.Request}
    (h :
      Csi.NodeStage.Request.ofMessage isDirectory message =
        .ok request) :
    Waits settings premium (some message)
      (Mounting.stage settings premium request) world := by
  have hPlan : Plans settings premium message _ := plans_of_request h
  have hCheck :
      Waits settings premium (some message)
        (checked (I := Host) request.capability.check :
          Program Host Csi.NodeStage.Error Unit)
        world := by
    cases request.capability.check with
    | ok => exact Guard.Outside.done
    | error => exact Guard.Outside.failed
  unfold Mounting.stage
  refine hCheck.bind fun _ now => ?_
  refine Guard.Outside.bind
    (Guard.Outside.mapError findDevice_waits) fun there later => ?_
  cases there with
  | true =>
      exact Guard.Outside.exclusively (fun _ => trivial)
        (fun last => Guard.Within.mapError (mountStage_within hPlan))
        (fun _ => trivial)
  | false => exact Guard.Outside.failed

/- Unstaging formats and mounts nothing. -/
theorem unstage_waits
    (request : Csi.NodeUnstage.Request) :
    Waits settings premium order? (Mounting.unstage request)
      world := by
  have hSection :
      ∀ now,
        guard.Within Answers (Allowed settings premium order?)
          (fun _ _ => True)
          (Mounting.unmountIfMounted "check staging mount of"
            "unmount staging path of" request.volumeId
            request.stagingPath)
          now := by
    intro now
    refine Guard.Within.bind
      (call_within (.isMounted _) fun _ _ =>
        ⟨trivial, fun _ _ _ _ _ _ _ => trivial⟩)
      fun mounted later _ => ?_
    cases mounted with
    | true =>
        exact call_within (.unmount _ none) fun _ _ =>
          ⟨trivial, fun _ _ _ _ _ _ _ => trivial⟩
    | false => exact Guard.Within.done fun _ _ => trivial
  exact Guard.Outside.exclusively (fun _ => trivial)
    (fun now => Guard.Within.mapError (hSection now))
    (fun _ => trivial)

/- A procedure does what its handler does. -/
theorem procedure_waits
    {ρ α β : Type}
    {name : String}
    {status : ε → Rpc.Status}
    {write : α → β}
    {handle : ρ → Program Host ε α}
    {request : Except Rpc.Status ρ}
    (h :
      ∀ r, request = .ok r →
        Waits settings premium order? (handle r) world) :
    Waits settings premium order?
      (Csi.procedure name status write (some handle) request)
      world := by
  cases request with
  | error refusal => exact Guard.Outside.failed
  | ok r =>
      exact Guard.Outside.bind (Guard.Outside.mapError (h r rfl))
        fun _ _ => Guard.Outside.done

------------------------------------------------------------
-- Calls Side by Side
------------------------------------------------------------

/-
  A call that stages or unstages a volume. The message to
  stage is read against the directories of some time.
-/
inductive Call where
  | stage
      (isDirectory : Path → Bool)
      (message : Csi.NodeStage.Message)
  | unstage (message : Csi.NodeUnstage.Message)

/- The message of a call that stages a volume. -/
def Call.stage? : Call → Option Csi.NodeStage.Message
  | .stage _ message => some message
  | .unstage _ => none

/- What the plugin does for a call. -/
def Call.program
    (settings : Settings)
    (premium : Pattern) :
    Call → Program Host Rpc.Status Csi.Node.Answer
  | .stage isDirectory message =>
      (nodeAgent settings premium).serve isDirectory (.stage message)
  | .unstage message =>
      (nodeAgent settings premium).serve (fun _ => false)
        (.unstage message)

/- Some calls of which none has begun. -/
def crewOf
    (settings : Settings)
    (premium : Pattern)
    (calls : List Call)
    (world : World) : Crew Rpc.Status Csi.Node.Answer World :=
  Crew.start (calls.map (Call.program settings premium)) world

/- A call keeps to its contract from the beginning. -/
theorem program_waits
    (call : Call) :
    Waits settings premium call.stage?
      (call.program settings premium) world := by
  cases call with
  | stage isDirectory message =>
      exact procedure_waits fun request hRead => stage_waits hRead
  | unstage message =>
      exact procedure_waits fun request _ => unstage_waits request

variable {calls : List Call}
variable {crew : Crew Rpc.Status Csi.Node.Answer World}

/- All calls keep to their contracts. -/
theorem keep_of_calls
    (hReach :
      Crew.Reaches around (crewOf settings premium calls world)
        crew) :
    Crew.Keep guard Answers
      (fun index =>
        Allowed settings premium (calls[index]?.bind Call.stage?))
      (fun _ _ now => now.2 = false) crew := by
  refine Crew.keep_of_reaches (fun _ => holds _) quiet_of_drift
    (Crew.keep_start fun index program hProgram => ?_) hReach
  rw [List.getElem?_map, Option.map_eq_some_iff] at hProgram
  rcases hProgram with ⟨call, hCall, rfl⟩
  rw [hCall]
  exact program_waits call

/- Whether the program at a place can log an action in a turn. -/
def Logs
    (crew : Crew Rpc.Status Csi.Node.Answer World)
    (index : Nat)
    (action : Action) : Prop :=
  ∃ after actions,
    Crew.Turn Answers index crew after ∧
      after.state.mounter.log =
        crew.state.mounter.log ++ actions ∧
      action ∈ actions

/- What is logged in a turn has been asked for. -/
theorem asks_of_logs
    {index : Nat}
    {action : Action}
    (h : Logs crew index action) :
    ∃ call,
      crew.Asks index (.mounter call) ∧
        crew.state.mounter.actionOf? crew.state.tree call =
          some action := by
  rcases h with ⟨after, actions, hTurn, hLog, hAction⟩
  have hSome :
      ∀ {now : Crew Rpc.Status Csi.Node.Answer World},
        now.state = crew.state →
          now.state.mounter.log = crew.state.mounter.log ++ actions →
            False := by
    intro now hSame hLog
    rw [hSame] at hLog
    rw [List.self_eq_append_right.mp hLog] at hAction
    exact nomatch hAction
  cases hTurn with
  | @reply request next reply now hTurn hOpen hAnswer =>
      have hNow : now = (crew.state.answer request).2 := by
        rw [hAnswer]
      have hActions :
          actions = (crew.state.actionOf? request).toList := by
        have hEq := World.log_of_answer request crew.state
        rw [← hNow] at hEq
        exact List.append_cancel_left (hLog.symm.trans hEq)
      rw [hActions, Option.mem_toList] at hAction
      rcases World.call_of_action hAction with ⟨call, rfl, hCall⟩
      exact ⟨call, ⟨next, hTurn⟩, hCall⟩
  | acquire => exact absurd hLog (hSome rfl)
  | release => exact absurd hLog (hSome rfl)
  | drop => exact absurd hLog (hSome rfl)

/-
  However the requests of calls interleave, and whichever of
  them are dropped on the way: a device is formatted only while
  it is blank and only for a message that allows it, so at most
  once and never if there was data on it. It is mounted for
  such a message only with data on it.
-/
theorem devices_formatted_once
    (hReach :
      Crew.Reaches around (crewOf settings premium calls world)
        crew) :
    (∀ index device filesystem,
      Logs crew index (.formatted device filesystem) →
        crew.state.mounter.format? device = none ∧
        ∃ isDirectory message,
          calls[index]? = some (.stage isDirectory message) ∧
          MayFormat message ∧
          device = deviceOf settings premium message) ∧
    (∀ index source target filesystem options,
      Logs crew index (.mounted source target filesystem options) →
        ∃ isDirectory message,
          calls[index]? = some (.stage isDirectory message) ∧
          ("bind" ∉ options →
            source = deviceOf settings premium message) ∧
          (MayFormat message →
            (crew.state.mounter.format?
              (deviceOf settings premium message)).isSome)) ∧
    (∃ actions,
      crew.state.mounter.log = world.mounter.log ++ actions ∧
      ∀ device,
        timesFormatted device actions ≤ 1 ∧
        ((world.mounter.format? device).isSome →
          timesFormatted device actions = 0)) := by
  have hKeep := keep_of_calls hReach
  have hStage :
      ∀ {index : Nat} {message : Csi.NodeStage.Message},
        calls[index]?.bind Call.stage? = some message →
          ∃ isDirectory,
            calls[index]? = some (.stage isDirectory message) := by
    intro index message hOrder
    rcases Option.bind_eq_some_iff.mp hOrder with
      ⟨call, hCall, hMessage⟩
    cases call with
    | stage isDirectory other =>
        cases hMessage
        exact ⟨isDirectory, hCall⟩
    | unstage => exact nomatch hMessage
  refine ⟨?_, ?_, ?_⟩
  · intro index device filesystem hLogs
    rcases asks_of_logs hLogs with ⟨call, hAsks, hCall⟩
    rcases Mounter.call_of_formatted hCall with ⟨name, options, rfl⟩
    cases hCall
    rcases hKeep.allowed_of_asks hAsks with
      ⟨_, hBlank, message, hOrder, hMay, hDevice⟩
    rcases hStage hOrder with ⟨isDirectory, hMine⟩
    exact ⟨hBlank, isDirectory, message, hMine, hMay, hDevice⟩
  · intro index source target filesystem options hLogs
    rcases asks_of_logs hLogs with ⟨call, hAsks, hCall⟩
    rcases Mounter.call_of_mounted hCall with
      ⟨device, place, sensitive, rfl, hSource⟩
    rcases hKeep.allowed_of_asks hAsks with
      ⟨message, hOrder, hDevice, hReady⟩
    rcases hStage hOrder with ⟨isDirectory, hMine⟩
    refine ⟨isDirectory, message, hMine, fun hPlain => ?_, hReady⟩
    rw [hSource, Mounter.sourceDevice, if_neg hPlain]
    exact Option.some.inj hDevice
  · have hSpares : Spares world crew.state :=
      Crew.loud_of_reaches (fun _ => holds _) quiet_of_drift
        (keep_of_calls .refl) hReach
    rcases hSpares with ⟨actions, hLog, hOnce⟩
    refine ⟨actions, hLog, fun device => ?_⟩
    have hDevice := hOnce device
    have hAtMost : dataOn crew.state device ≤ 1 := Bool.toNat_le _
    constructor
    · omega
    · intro hData
      have hThere : dataOn world device = 1 := by
        rw [dataOn, hData]
        rfl
      omega

/-
  Two calls for one volume find its device. The first one gets
  the lock, formats the device and is about to mount it, while
  the second one waits.
-/
theorem devices_formatted_once_two_calls :
    let premium : Pattern := .sequence .atStart .atEnd
    let message (staging : String) : Csi.NodeStage.Message :=
      { volumeId := "vol-1"
        stagingPath := staging
        capability := some ⟨some 1, some (.mount "ext4" [])⟩ }
    let device : Path := ⟨"/dev/disk/by-id/virtio-vol-1"⟩
    let calls : List Call :=
      [.stage (fun _ => true) (message "/a"),
        .stage (fun _ => true) (message "/b")]
    let world : World := { mounter := { paths := [device] } }
    ∃ crew later,
      Crew.Reaches around (crewOf {} premium calls world) crew ∧
      Logs crew 0 (.formatted device "ext4") ∧
      crew.state.mounter.format? device = none ∧
      Crew.Reaches around (crewOf {} premium calls world) later ∧
      (∃ target, Logs later 0 (.mounted device target "ext4" [])) ∧
      (later.state.mounter.format? device).isSome ∧
      timesFormatted device later.state.mounter.log ≤ 1 := by
  intro premium message device calls world
  let formatted : World :=
    { world with mounter := world.mounter.format device "ext4" }
  have hLook :
      formatted.answer (.mounter (.isMounted ⟨"/a"⟩)) =
        (.ok false, formatted) :=
    congrArg (fun reply => (reply, formatted))
      (Mounter.isMounted_of_empty rfl _ _)
  let crewAt
      (request : Request)
      (next : Host.Reply request →
        Program Host Rpc.Status Csi.Node.Answer)
      (rest : Program Host Rpc.Status Csi.Node.Answer)
      (state : World) :
      Crew Rpc.Status Csi.Node.Answer World :=
    { rests := [some (.ask (I := Host) request next), some rest]
      holder := some 0
      state := state }
  let format : Request := .mounter (.format device "ext4" [])
  let mount : Request :=
    .mounter (.mount (some device) ⟨"/a"⟩ "ext4" [] [])
  have hRun :
      ∃ next last rest,
        Crew.Reaches around (crewOf {} premium calls world)
          (crewAt format next rest world) ∧
        Crew.Reaches around (crewAt format next rest world)
          (crewAt mount last rest formatted) := by
    dsimp only [premium, message, device, calls, world, crewAt,
      format, mount]
    apply Exists.intro
    apply Exists.intro
    apply Exists.intro
    constructor
    · refine .head (.of_reply 0 (Except.ok true) rfl nofun rfl) ?_
      refine .head (.of_reply 1 (Except.ok true) rfl nofun rfl) ?_
      refine .head (.turn 0 (.acquire rfl rfl)) ?_
      refine .head (.of_reply 0 (Except.ok false) rfl nofun rfl) ?_
      exact .refl
    · refine .head (.of_reply 0 (Except.ok ()) rfl nofun rfl) ?_
      refine .head (.of_reply 0 (Except.ok false) rfl nofun hLook) ?_
      exact .refl
  rcases hRun with ⟨next, last, rest, hReach, hOn⟩
  have hLater := hReach.trans hOn
  have hFormat :
      Logs (crewAt format next rest world) 0
        (.formatted device "ext4") :=
    ⟨_, _, .reply rfl nofun rfl, rfl, List.mem_singleton.mpr rfl⟩
  have hMount :
      Logs (crewAt mount last rest formatted) 0
        (.mounted device (formatted.tree.canonicalOrSelf ⟨"/a"⟩)
          "ext4" []) :=
    ⟨_, _, .reply rfl nofun rfl, rfl, List.mem_singleton.mpr rfl⟩
  rcases (devices_formatted_once hReach).1 0 device "ext4" hFormat with
    ⟨hBlank, _⟩
  rcases devices_formatted_once hLater with
    ⟨_, hMounts, actions, hLog, hOnce⟩
  rcases hMounts 0 _ _ _ _ hMount with
    ⟨isDirectory, order, hCall, _, hData⟩
  cases hCall
  have hDevice : deviceOf {} premium (message "/a") = device := by
    dsimp only [premium, message, device]
    rfl
  rw [hDevice] at hData
  have hMay : MayFormat (message "/a") := nofun
  refine ⟨_, _, hReach, hFormat, hBlank, hLater, ⟨_, hMount⟩,
    hData hMay, ?_⟩
  have hNone : world.mounter.log = [] := rfl
  rw [hLog, hNone]
  exact (hOnce device).1

end Formatting

end BlockVolumes
