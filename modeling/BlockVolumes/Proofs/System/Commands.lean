import BlockVolumes.Mount.SystemMounter
import BlockVolumes.Proofs.Program.Exchanges

/-
  The commands that the mounter of the system runs for each
  call. Everything else that it asks of the system is to look.

  Key definitions include:
    * `Mount.Shell.Request.command?`
    * `Mount.SystemMounter.stepCommand`
    * `Mount.SystemMounter.probeCommand`
    * `Mount.SystemMounter.Runs`
    * `Mount.Command.MakesFilesystem`

  Key theorems include:
    * `Mount.Command.head?_ofPath`
    * `Mount.SystemMounter.serve_runs`
    * `Mount.SystemMounter.Runs.eq_format`
-/

namespace BlockVolumes

namespace Mount

open Files (Failure)

/-
  A program that is given by its path is never looked for on
  the search path: its name starts at the root or here.
-/
theorem Command.head?_ofPath
    (program : Path)
    (arguments : List String) :
    (ofPath program arguments).program.toList.head? = some '/' ∨
      (ofPath program arguments).program.toList.head? =
        some '.' := by
  unfold ofPath
  split
  · next hAbsolute =>
      left
      simpa [Path.isAbsolute] using hAbsolute
  · right
    simp

------------------------------------------------------------
-- Looking and Running
------------------------------------------------------------

namespace Shell

variable {α : Type}

/- The command that a request runs, if it does not just look. -/
def Request.command? : Request → Option Command
  | .run command => some command
  | .runWithin command _ => some command
  | _ => none

/- Whether a program runs only some commands. -/
abbrev RunsOnly
    {ε : Type}
    (runs : Command → Prop)
    (program : Program Shell ε α) : Prop :=
  program.AsksOnly (I := Shell)
    fun request => ∀ command ∈ request.command?, runs command

variable {runs : Command → Prop}
variable {command : Command}

theorem runToEnd_runs
    (h : runs command) :
    RunsOnly runs (runToEnd command) := by
  refine ⟨?_, fun _ => Program.AsksOnly.ofExcept⟩
  rintro _ ⟨⟩
  exact h

theorem runSuccessfully_runs
    (h : runs command) :
    RunsOnly runs (runSuccessfully command) :=
  (runToEnd_runs h).bind fun _ => Program.AsksOnly.ofExcept

theorem readFile_runs
    {path : Path} :
    RunsOnly runs (readFile path) :=
  ⟨nofun, fun _ => Program.AsksOnly.ofExcept⟩

end Shell

section Reading

open Shell (RunsOnly)

variable {runs : Command → Prop}
variable {path : Path}
variable {attempts : Nat}

theorem readUntilStable_runs
    {content : List UInt8}
    {left : Nat} :
    RunsOnly runs (readUntilStable path attempts content left) := by
  induction left generalizing content with
  | zero => exact Program.AsksOnly.failed
  | succ left ih =>
      refine Shell.readFile_runs.bind fun again => ?_
      split
      · exact Program.AsksOnly.done
      · exact ih

theorem consistentRead_runs :
    RunsOnly runs (consistentRead path attempts) :=
  Shell.readFile_runs.bind fun _ => readUntilStable_runs

end Reading

------------------------------------------------------------
-- Calls
------------------------------------------------------------

namespace SystemMounter

open Program (AsksOnly)
open Shell (RunsOnly)

/- The command of a step of a mount. -/
abbrev stepCommand
    (system : SystemMounter)
    (source : Option Path)
    (target : Path)
    (filesystem : String)
    (step : Step) : Command :=
  (system.launch source target filesystem step).command

/- The program of a step is given by its path. -/
theorem head?_stepCommand
    (system : SystemMounter)
    (source : Option Path)
    (target : Path)
    (filesystem : String)
    (step : Step) :
    (system.stepCommand source target filesystem
        step).program.toList.head? = some '/' ∨
      (system.stepCommand source target filesystem
        step).program.toList.head? = some '.' :=
  Command.head?_ofPath
    (system.launch source target filesystem step).program
    (system.launch source target filesystem step).line.arguments

/- The command that looks for data on a device. -/
def probeCommand
    (device : Path) : Command :=
  ⟨"blkid",
    ["-p", "-s", "TYPE", "-s", "PTTYPE", "-o", "export",
      device.text]⟩

/- The command that makes a filesystem on a device. -/
def formatCommand
    (device : Path)
    (filesystem : String)
    (options : List String) : Command :=
  ⟨"mkfs." ++ orExt4 filesystem,
    formatArguments (orExt4 filesystem) ++ options ++
      [device.text]⟩

/- The commands that may be run for a call. -/
def Runs
    (system : SystemMounter) :
    Call → Command → Prop
  | .mount source target filesystem _ _, command =>
      ∃ step,
        command = system.stepCommand source target filesystem step
  | .unmount _ _, command => command.program = "umount"
  | .format device filesystem options, command =>
      command = formatCommand device filesystem options
  | .diskFormat device, command => command = probeCommand device
  | .isFormatted device, command => command = probeCommand device
  | .resize filesystem device mountPath, command =>
      resizeCommand filesystem device mountPath =
        .ok (command.program, command.arguments)
  | .triggerDevices, command => command = ⟨"udevadm", ["trigger"]⟩
  | _, _ => False

variable {runs : Command → Prop}
variable {path device : Path}

theorem runSteps_runs
    {system : SystemMounter}
    {source : Option Path}
    {target : Path}
    {filesystem : String}
    (steps : List Step) :
    RunsOnly
      (fun command =>
        ∃ step,
          command =
            system.stepCommand source target filesystem step)
      (system.runSteps source target filesystem steps) := by
  induction steps with
  | nil => exact AsksOnly.done
  | cons step steps ih =>
      exact (Shell.runSuccessfully_runs ⟨step, rfl⟩).bind
        fun _ => ih

theorem unmount_runs
    {target : Path}
    {forceAfter : Option Duration} :
    RunsOnly (fun command => command.program = "umount")
      (unmount target forceAfter) := by
  refine AsksOnly.mapError ?_
  cases forceAfter with
  | none => exact Shell.runSuccessfully_runs rfl
  | some limit =>
      refine ⟨?_, fun reply => AsksOnly.ofExcept.bind ?_⟩
      · rintro _ ⟨⟩
        rfl
      · intro finished
        cases finished with
        | some output => exact AsksOnly.ofExcept
        | none => exact Shell.runSuccessfully_runs rfl

theorem format_runs
    {filesystem : String}
    {options : List String} :
    RunsOnly (· = formatCommand device filesystem options)
      (format device filesystem options) := by
  refine AsksOnly.mapError
    ((Shell.runToEnd_runs ?_).bind fun output => ?_)
  · rfl
  · split
    · exact AsksOnly.done
    · exact AsksOnly.failed

theorem diskFormat_runs :
    RunsOnly (· = probeCommand device) (diskFormat device) := by
  refine AsksOnly.mapError
    ((Shell.runToEnd_runs ?_).bind fun output => ?_)
  · rfl
  · dsimp only
    split
    · exact AsksOnly.done
    · split
      · exact AsksOnly.done
      · exact AsksOnly.failed

theorem resize_runs
    {filesystem : Option String}
    {mountPath : Path} :
    RunsOnly
      (fun command =>
        resizeCommand filesystem device mountPath =
          .ok (command.program, command.arguments))
      (resize filesystem device mountPath) := by
  unfold resize
  cases hCommand : resizeCommand filesystem device mountPath with
  | error error => exact AsksOnly.failed
  | ok command =>
      refine AsksOnly.mapError
        ((Shell.runToEnd_runs ?_).bind fun output => ?_)
      · rfl
      · split
        · exact AsksOnly.done
        · exact AsksOnly.failed

theorem list_runs :
    RunsOnly runs list :=
  consistentRead_runs.mapError.bind fun _ => AsksOnly.ofExcept

theorem inspect_runs :
    RunsOnly runs (inspect path) :=
  ⟨nofun, fun _ => AsksOnly.ofExcept⟩

theorem resolve_runs :
    RunsOnly runs (resolve path) :=
  ⟨nofun, fun _ => AsksOnly.done⟩

theorem isLikelyNotMountPoint_runs :
    RunsOnly runs (isLikelyNotMountPoint path) := by
  refine inspect_runs.bind fun own => ?_
  split
  · exact AsksOnly.failed
  · exact inspect_runs.bind fun _ => AsksOnly.done

theorem isNotMountPoint_runs :
    RunsOnly runs (isNotMountPoint path) := by
  refine isLikelyNotMountPoint_runs.attempt.bind fun quick => ?_
  split
  · refine resolve_runs.bind fun place => ?_
    split
    · exact AsksOnly.done
    · exact list_runs.bind fun _ => AsksOnly.done
  · exact AsksOnly.ofExcept

theorem pathExists_runs :
    RunsOnly runs (pathExists path) := by
  refine inspect_runs.attempt.bind fun found => ?_
  split
  · exact AsksOnly.done
  · split
    · exact AsksOnly.done
    · exact AsksOnly.failed

theorem usage_runs :
    RunsOnly runs (usage path) := by
  unfold usage
  split
  · exact AsksOnly.failed
  · exact ⟨nofun, fun _ => AsksOnly.ofExcept⟩

/- Each call runs its own commands, and no others. -/
theorem serve_runs
    (system : SystemMounter)
    (call : Call) :
    RunsOnly (system.Runs call) (system.serve call) := by
  cases call with
  | mount source target filesystem options sensitive =>
      exact (runSteps_runs _).mapError
  | unmount target forceAfter => exact unmount_runs
  | list => exact list_runs
  | isLikelyNotMountPoint path => exact isLikelyNotMountPoint_runs
  | isNotMountPoint path => exact isNotMountPoint_runs
  | isMounted path =>
      exact isNotMountPoint_runs.attempt.bind
        fun _ => AsksOnly.ofExcept
  | deviceMountedAt path =>
      exact list_runs.bind fun _ =>
        resolve_runs.bind fun _ => AsksOnly.done
  | format device filesystem options => exact format_runs
  | diskFormat device => exact diskFormat_runs
  | isFormatted device =>
      exact diskFormat_runs.bind fun _ => AsksOnly.done
  | resize filesystem device mountPath => exact resize_runs
  | pathExists path => exact pathExists_runs
  | triggerDevices =>
      refine AsksOnly.mapError (Shell.runSuccessfully_runs ?_)
      rfl
  | usage path => exact usage_runs

end SystemMounter

------------------------------------------------------------
-- Making Filesystems
------------------------------------------------------------

/- Whether a command makes a filesystem. -/
def Command.MakesFilesystem
    (command : Command) : Prop :=
  "mkfs".toList <+: command.program.toList

theorem Command.not_makesFilesystem
    {command : Command}
    {name : String}
    (h : command.program = name)
    (hName : ¬ "mkfs".toList <+: name.toList) :
    ¬ command.MakesFilesystem := by
  rw [MakesFilesystem, h]
  exact hName

namespace SystemMounter

variable {system : SystemMounter}
variable {call : Call}
variable {command : Command}

theorem not_makesFilesystem_stepCommand
    {source : Option Path}
    {target : Path}
    {filesystem : String}
    (step : Step) :
    ¬ (system.stepCommand source target filesystem
        step).MakesFilesystem := by
  rintro ⟨rest, hProgram⟩
  have hHead := system.head?_stepCommand source target filesystem step
  rw [← hProgram] at hHead
  exact absurd hHead (by simp)

theorem program_of_resizeCommand
    {filesystem : Option String}
    {device mountPath : Path}
    {program : String}
    {arguments : List String}
    (h :
      resizeCommand filesystem device mountPath =
        .ok (program, arguments)) :
    program = "resize2fs" ∨ program = "xfs_growfs" := by
  unfold resizeCommand at h
  dsimp only at h
  split at h
  · cases h
    exact .inl rfl
  · split at h
    · cases h
      exact .inr rfl
    · exact nomatch h

/- Only the call for it makes a filesystem. -/
theorem Runs.eq_format
    (h : system.Runs call command)
    (hMakes : command.MakesFilesystem) :
    ∃ device filesystem options,
      call = .format device filesystem options ∧
        command = formatCommand device filesystem options := by
  cases call with
  | mount source target filesystem options sensitive =>
      rcases h with ⟨step, rfl⟩
      exact absurd hMakes (not_makesFilesystem_stepCommand step)
  | unmount target forceAfter =>
      exact absurd hMakes
        (Command.not_makesFilesystem h (by decide))
  | format device filesystem options => exact ⟨_, _, _, rfl, h⟩
  | diskFormat device =>
      have hProgram : command.program = "blkid" :=
        congrArg Command.program h
      exact absurd hMakes
        (Command.not_makesFilesystem hProgram (by decide))
  | isFormatted device =>
      have hProgram : command.program = "blkid" :=
        congrArg Command.program h
      exact absurd hMakes
        (Command.not_makesFilesystem hProgram (by decide))
  | resize filesystem device mountPath =>
      rcases program_of_resizeCommand h with hProgram | hProgram
      · exact absurd hMakes
          (Command.not_makesFilesystem hProgram (by decide))
      · exact absurd hMakes
          (Command.not_makesFilesystem hProgram (by decide))
  | triggerDevices =>
      have hProgram : command.program = "udevadm" :=
        congrArg Command.program h
      exact absurd hMakes
        (Command.not_makesFilesystem hProgram (by decide))
  | _ => exact nomatch h

end SystemMounter

end Mount

end BlockVolumes
