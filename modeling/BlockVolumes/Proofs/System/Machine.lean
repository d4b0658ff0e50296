import BlockVolumes.Memory.World
import BlockVolumes.Proofs.Program.Layers
import BlockVolumes.Proofs.Staging.Calls
import BlockVolumes.Proofs.System.Detection

/-
  A node service on top of the mounter of the system. No
  filesystem is made on a device unless the command right
  before has looked at the device and shown nothing.

  Key definitions include:
    * `Machine`
    * `Machine.serving`
    * `Machine.FoundBlank`
    * `Machine.MakesOnBlank`

  Key theorems include:
    * `Machine.handle_keeps`
    * `Machine.serving_keeps`
    * `Machine.data_never_formatted_over`
-/

namespace BlockVolumes

------------------------------------------------------------
-- The Machine
------------------------------------------------------------

namespace Machine

/- What reaches a machine: all but the calls of its mounter. -/
inductive Request where
  | service (request : Host.Request)
  | system (request : Mount.Shell.Request)
  deriving DecidableEq, Repr

def Reply : Request → Type
  | .service request => Host.Reply request
  | .system request => Mount.Shell.Reply request

end Machine

/- The surroundings of a service and of the mounter below it. -/
def Machine : Interface :=
  ⟨Machine.Request, Machine.Reply⟩

namespace Machine

open Files (Failure)
open Interface (Orderly Record Replies recorded)
open Mount (Command Output Shell SystemMounter)
open Mount.SystemMounter (detected formatCommand probeCommand)

variable {ε α : Type}

/- A program of the mounter on the machine. -/
def below
    (program : Program Shell ε α) : Program Machine ε α :=
  program.through fun request =>
    Program.perform (I := Machine) (.system request)

/- The answer to a request of a service. -/
def handle
    (system : SystemMounter) :
    (request : Host.Request) →
      Program Machine ε (Host.Reply request)
  | .mounter call => (below (system.serve call)).attempt
  | request => Program.perform (I := Machine) (.service request)

/- A program of a service on the machine. -/
def serving
    (system : SystemMounter)
    (program : Program Host ε α) : Program Machine ε α :=
  program.through (handle system)

------------------------------------------------------------
-- The Rule
------------------------------------------------------------

/- The command that a request runs, if it runs one. -/
def Request.command? : Request → Option Command
  | .service _ => none
  | .system request => request.command?

/- Whether a device was found blank by the last thing done. -/
def FoundBlank
    (device : Path)
    (past : Record Machine) : Prop :=
  ∃ output earlier,
    past =
        ⟨.system (.run (probeCommand device)), .ok output⟩ ::
          earlier ∧
      output.ShowsNothing

/-
  The rule that a filesystem is made only on a device that the
  last thing done has found blank.
-/
def MakesOnBlank
    (request : Request)
    (past : Record Machine) : Prop :=
  ∀ command ∈ request.command?, command.MakesFilesystem →
    ∃ device,
      command.arguments.getLast? = some device.text ∧
        FoundBlank device past

/-
  Whether a record of the machine bears out that of a service:
  where the service was told just now that a device holds no
  data, the machine has found it blank just now.
-/
def BearsOut
    (told : Host.Record)
    (past : Record Machine) : Prop :=
  ∀ device earlier,
    told = ⟨.mounter (.isFormatted device), .ok false⟩ :: earlier →
      FoundBlank device past

------------------------------------------------------------
-- Answers
------------------------------------------------------------

variable {system : SystemMounter}
variable {told : Host.Record}
variable {past : Record Machine}

/- What a mounter asks for reaches the system. -/
theorem below_asksOnly
    {allowed : Mount.Shell.Request → Prop}
    {program : Program Shell ε α}
    (h : program.AsksOnly (I := Shell) allowed) :
    (below program).AsksOnly (I := Machine) fun request =>
      ∃ asked, request = .system asked ∧ allowed asked := by
  induction program with
  | done a => trivial
  | failed e => trivial
  | ask request next ih =>
      exact ⟨⟨request, rfl, h.1⟩, fun reply => ih reply (h.2 reply)⟩

theorem below_ofExcept
    (result : Except ε α) :
    below (Program.ofExcept result) = Program.ofExcept result := by
  cases result with
  | error e => rfl
  | ok a => rfl

/- A call that is a matter of one request to the system. -/
theorem below_ask_keeps
    {allowed : Request → Record Machine → Prop}
    {wanted : Except ε α → Record Machine → Prop}
    {request : Mount.Shell.Request}
    {outcome : Mount.Shell.Reply request → Except ε α}
    (hAllowed : allowed (.system request) past)
    (hWanted :
      ∀ reply,
        wanted (outcome reply) (⟨.system request, reply⟩ :: past)) :
    (below (.ask (I := Shell) request
        fun reply => .ofExcept (outcome reply))).Keeps
      (recorded Machine) allowed wanted past := by
  refine Program.Keeps.alone_ask.mpr ⟨hAllowed, ?_⟩
  rintro reply _ rfl
  change (below (Program.ofExcept (outcome reply))).Keeps _ _ _ _
  rw [below_ofExcept]
  refine Program.Keeps.ofExcept ?_
  rintro _ rfl
  exact hWanted reply

/- The answer to a request bears out what the service is told. -/
abbrev Answers
    (request : Host.Request)
    (told : Host.Record)
    (result : Except ε (Host.Reply request))
    (past : Record Machine) : Prop :=
  ∃ reply now,
    result = .ok reply ∧ now = ⟨request, reply⟩ :: told ∧
      BearsOut now past

/- What makes no filesystem may be asked at any time. -/
theorem makesOnBlank_of_quiet
    {request : Request}
    (h : ∀ command ∈ request.command?, ¬ command.MakesFilesystem) :
    MakesOnBlank request past :=
  fun command hCommand hMakes =>
    absurd hMakes (h command hCommand)

/- Only one kind of answer says that a device is blank. -/
theorem bearsOut_of_ne
    {request : Host.Request}
    {reply : Host.Reply request}
    (h : ∀ device, request ≠ .mounter (.isFormatted device)) :
    BearsOut (⟨request, reply⟩ :: told) past :=
  fun device _ hTold =>
    absurd
      (congrArg Host.Exchange.request (List.cons.inj hTold).1)
      (h device)

/- Requests that do not concern the mounter are passed on. -/
theorem perform_keeps
    (request : Host.Request)
    (h : ∀ device, request ≠ .mounter (.isFormatted device)) :
    (Program.perform (I := Machine) (.service request)
      : Program Machine ε (Host.Reply request)).Keeps
      (recorded Machine) MakesOnBlank (Answers request told)
      past := by
  refine Program.Keeps.alone_ask.mpr
    ⟨makesOnBlank_of_quiet nofun, ?_⟩
  rintro reply _ rfl
  exact Program.Keeps.alone_done.mpr
    ⟨reply, _, rfl, rfl, bearsOut_of_ne h⟩

/- Calls that make no filesystem tell nothing of blank devices. -/
theorem handle_keeps_of_quiet
    {call : Mount.Call}
    (hFormat :
      ∀ device filesystem options,
        call ≠ .format device filesystem options)
    (hProbe : ∀ device, call ≠ .isFormatted device) :
    (handle system (.mounter call) : Program Machine ε _).Keeps
      (recorded Machine) MakesOnBlank
      (Answers (.mounter call) told) past := by
  have hQuiet :
      ∀ request now,
        (∃ asked : Mount.Shell.Request,
          request = .system asked ∧
            ∀ command ∈ asked.command?,
              system.Runs call command) →
          MakesOnBlank request now := by
    rintro _ now ⟨asked, rfl, hRuns⟩
    refine makesOnBlank_of_quiet fun command hCommand hMakes => ?_
    rcases (hRuns command hCommand).eq_format hMakes with
      ⟨device, filesystem, options, hCall, _⟩
    exact hFormat device filesystem options hCall
  have hOther :
      ∀ device,
        Host.Request.mounter call ≠ .mounter (.isFormatted device) := by
    rintro device ⟨⟩
    exact hProbe device rfl
  refine Program.Keeps.attempt
    (((below_asksOnly (system.serve_runs call)).keeps hQuiet).mono
      fun result now _ => ?_)
  exact ⟨result, _, rfl, rfl, bearsOut_of_ne hOther⟩

/-
  The answer that a device holds no data is given only after
  it was found blank.
-/
theorem handle_isFormatted_keeps
    (device : Path) :
    (handle system (.mounter (.isFormatted device))
      : Program Machine ε _).Keeps
      (recorded Machine) MakesOnBlank
      (Answers (.mounter (.isFormatted device)) told) past := by
  refine Program.Keeps.attempt ?_
  rw [SystemMounter.serve_isFormatted_eq]
  refine below_ask_keeps (makesOnBlank_of_quiet ?_) ?_
  · rintro _ ⟨⟩
    have hProgram : (probeCommand device).program = "blkid" := rfl
    exact Command.not_makesFilesystem hProgram (by decide)
  · intro reply
    refine ⟨_, _, rfl, rfl, ?_⟩
    intro probed earlier hTold
    have hExchange := (List.cons.inj hTold).1
    cases congrArg Host.Exchange.request hExchange
    have hReply := eq_of_heq (Host.Exchange.mk.inj hExchange).2
    rcases SystemMounter.detected_isSome_eq_false_iff.mp hReply with
      ⟨output, rfl, hNothing⟩
    exact ⟨output, past, rfl, hNothing⟩

/- A filesystem is made where the device was found blank. -/
theorem handle_format_keeps
    {device : Path}
    {filesystem : String}
    {options : List String}
    (h : FoundBlank device past) :
    (handle system (.mounter (.format device filesystem options))
      : Program Machine ε _).Keeps
      (recorded Machine) MakesOnBlank
      (Answers (.mounter (.format device filesystem options)) told)
      past := by
  refine Program.Keeps.attempt ?_
  rcases system.serve_format_eq device filesystem options with
    ⟨made, hServe⟩
  rw [hServe]
  refine below_ask_keeps ?_ ?_
  · rintro _ ⟨⟩ _
    exact ⟨device, List.getLast?_concat, h⟩
  · intro reply
    exact ⟨_, _, rfl, rfl, bearsOut_of_ne nofun⟩

/-
  Whatever the service is allowed to ask, the machine keeps to
  its own rule in the answer and bears it out.
-/
theorem handle_keeps
    (request : Host.Request)
    (told : Host.Record)
    (past : Record Machine)
    (hAllowed : Host.FormatsBlank request told)
    (hTold : BearsOut told past) :
    (handle system request : Program Machine ε _).Keeps
      (recorded Machine) MakesOnBlank (Answers request told)
      past := by
  cases request with
  | mounter call =>
      cases call with
      | isFormatted device => exact handle_isFormatted_keeps device
      | format device filesystem options =>
          rcases hAllowed device filesystem options rfl with
            ⟨earlier, rfl⟩
          exact handle_format_keeps (hTold device earlier rfl)
      | _ => exact handle_keeps_of_quiet nofun nofun
  | _ => exact perform_keeps _ nofun

/- What a service keeps to, the machine below bears out. -/
theorem serving_keeps
    {wanted : Except ε α → Host.Record → Prop}
    {program : Program Host ε α}
    (h :
      program.Keeps Host.recorded Host.FormatsBlank wanted told)
    (hTold : BearsOut told past) :
    (serving system program).Keeps (recorded Machine) MakesOnBlank
      (fun result now =>
        ∃ after, wanted result after ∧ BearsOut after now)
      past :=
  h.through handle_keeps hTold

------------------------------------------------------------
-- Staging on the Machine
------------------------------------------------------------

/-
  Of a device, the mounter says that it holds no data only if
  the command that looks for data shows none. Staging makes a
  filesystem only where this command was the last thing done,
  and has shown nothing on the same device.
-/
theorem data_never_formatted_over :
    (∀ (system : SystemMounter) (device : Path)
      (replies : Replies Shell),
      let probe : Mount.Shell.Request := .run (probeCommand device)
      let run := replies.run (system.serve (.diskFormat device)) []
      run.2 = [⟨probe, replies probe []⟩] ∧
        SystemMounter.DecidedBy (replies probe []) run.1) ∧
    ∀ (system : SystemMounter) (settings : Settings)
      (premium : Pattern) (isDirectory : Path → Bool)
      (message : Csi.NodeStage.Message) (replies : Replies Machine),
      let run :=
        replies.run
          (serving system
            ((Service.nodeAgent settings premium).serve isDirectory
              (.stage message))) []
      ∀ later exchange earlier,
        run.2 = later ++ exchange :: earlier →
          MakesOnBlank exchange.request earlier := by
  constructor
  · intro system device replies probe run
    have hRun :
        run =
          (detected device (replies probe []),
            [⟨probe, replies probe []⟩]) := by
      have hServe :
          system.serve (.diskFormat device) =
            .ask (I := Shell) probe
              fun reply => .ofExcept (detected device reply) :=
        SystemMounter.diskFormat_eq device
      change replies.run (system.serve (.diskFormat device)) [] = _
      rw [hServe]
      exact Program.run_ofExcept _ _ _
    rw [hRun]
    exact ⟨rfl, SystemMounter.detected_decidedBy device _⟩
  · intro system settings premium isDirectory message replies run
      later exchange earlier hRun
    have hKeeps :
        (serving system
          ((Service.nodeAgent settings premium).serve isDirectory
            (.stage message))).Keeps
          (recorded Machine) MakesOnBlank _ [] :=
      serving_keeps
        (Service.Mounting.serve_stage_keeps settings premium
          isDirectory message)
        nofun
    have hOrderly : Orderly MakesOnBlank run.2 :=
      hKeeps.orderly_run trivial replies
    rw [hRun] at hOrderly
    exact hOrderly.of_split

/-
  A machine with a blank device. The path that is inspected
  first is there, and no other file. The first command, after
  two other requests, looks for data, and all those after it
  go well.
-/
def blankReplies : Replies Machine
  | .service request, _ => (Memory.World.answer request {}).1
  | .system (.run _), [_, _] =>
      (.ok ⟨.ofCode 2, []⟩ : Except Failure Output)
  | .system (.run _), _ =>
      (.ok ⟨.ofCode 0, []⟩ : Except Failure Output)
  | .system (.search _), _ => (none : Option Path)
  | .system (.runWithin _ _), _ =>
      (.ok none : Except Failure (Option Output))
  | .system (.resolve path), _ =>
      (.ok path.raw : Except Failure RawPath)
  | .system (.inspect _), [] => (.ok [] : Except Failure (List String))
  | .system (.inspect _), _ =>
      (.error (.ofNumber 2) : Except Failure (List String))
  | .system (.read _), _ =>
      (.error (.ofNumber 2) : Except Failure (List UInt8))
  | .system (.usage _), _ => (.ok {} : Except Failure Mount.Usage)

/- The message that asks for a volume to be staged there. -/
def blankMessage : Csi.NodeStage.Message :=
  { volumeId := "vol-1"
    stagingPath := "/staged"
    capability := some ⟨some 1, some (.mount "" [])⟩ }

/- A blank device is formatted right after it was looked at. -/
theorem data_never_formatted_over_blank :
    let device : Path := ⟨"/dev/disk/by-id/virtio-vol-1"⟩
    let run :=
      blankReplies.run
        (serving ⟨⟨"/sbin/mount.nfs"⟩, false⟩
          ((Service.nodeAgent {} (.sequence .atStart .atEnd)).serve
            (fun _ => true) (.stage blankMessage))) []
    let mkfs : Command :=
      ⟨"mkfs.ext4", ["-F", "-m0", device.text]⟩
    let earlier : Record Machine :=
      [⟨.system (.run (probeCommand device)),
          (.ok ⟨.ofCode 2, []⟩ : Except Failure Output)⟩,
        ⟨.service .acquire, ()⟩,
        ⟨.system (.inspect device),
          (.ok [] : Except Failure (List String))⟩]
    run.2 =
        run.2.take 3 ++
          ⟨.system (.run mkfs),
            (.ok ⟨.ofCode 0, []⟩ : Except Failure Output)⟩ ::
            earlier ∧
      mkfs.MakesFilesystem ∧
      ∃ found : Path,
        mkfs.arguments.getLast? = some found.text ∧
          FoundBlank found earlier := by
  intro device run mkfs earlier
  have hRun :
      run.2 =
        run.2.take 3 ++
          ⟨.system (.run mkfs),
            (.ok ⟨.ofCode 0, []⟩ : Except Failure Output)⟩ ::
            earlier :=
    rfl
  have hMakes : mkfs.MakesFilesystem :=
    (by decide : "mkfs".toList <+: "mkfs.ext4".toList)
  exact ⟨hRun, hMakes,
    data_never_formatted_over.2 ⟨⟨"/sbin/mount.nfs"⟩, false⟩ {}
      (.sequence .atStart .atEnd) (fun _ => true) blankMessage
      blankReplies _ _ _ hRun mkfs rfl hMakes⟩

end Machine

end BlockVolumes
