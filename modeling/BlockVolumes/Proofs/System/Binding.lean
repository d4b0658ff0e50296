import BlockVolumes.Proofs.System.Commands
import BlockVolumes.Proofs.System.Options

/-
  Bind mounts by the tools of the system. They take two
  commands, and nothing undoes the first one if the second
  one fails.

  Key definitions include:
    * `Mount.Succeeded`
    * `Mount.Shell.Request.Unmounts`
    * `Mount.SystemMounter.bindStep`
    * `Mount.SystemMounter.remountStep`

  Key theorems include:
    * `Mount.Shell.run_runSuccessfully`
    * `Mount.SystemMounter.run_mount_bind`
    * `Mount.SystemMounter.failed_bind_mount_stays`
-/

namespace BlockVolumes

namespace Mount

open Files (Failure)
open Interface (Exchange Record Replies)

------------------------------------------------------------
-- Commands
------------------------------------------------------------

/- Whether a command was run and did what it should. -/
def Succeeded : Except Failure Output → Prop
  | .ok output => output.status.isSuccess = true
  | .error _ => False

namespace Shell

variable {replies : Replies Shell}
variable {command : Command}
variable {past : Record Shell}

theorem run_runSuccessfully
    (replies : Replies Shell)
    (command : Command)
    (past : Record Shell) :
    replies.run (runSuccessfully command) past =
      ((replies (.run command) past : Except Failure Output).bind
          (Output.check command),
        ⟨.run command, replies (.run command) past⟩ :: past) := by
  have hAsk :
      replies.run (runSuccessfully command) past =
        replies.run
          ((Program.ofExcept (replies (.run command) past)).bind
            fun output => .ofExcept (output.check command))
          (⟨.run command, replies (.run command) past⟩ :: past) :=
    rfl
  rw [hAsk]
  cases (replies (.run command) past : Except Failure Output) with
  | error failure => rfl
  | ok output => exact Program.run_ofExcept _ _ _

/- A command that has to succeed is run, and the program goes on. -/
theorem run_runSuccessfully_of_ok
    (h : Succeeded (replies (.run command) past)) :
    replies.run (runSuccessfully command) past =
      (.ok (),
        ⟨.run command, replies (.run command) past⟩ :: past) := by
  rw [run_runSuccessfully]
  cases hReply : (replies (.run command) past : Except Failure Output) with
  | error failure =>
      rw [hReply] at h
      exact nomatch h
  | ok output =>
      rw [hReply] at h
      have hCheck : output.check command = .ok () := if_pos h
      rw [← hCheck]
      rfl

/- A command that does not succeed ends the program. -/
theorem run_runSuccessfully_of_error
    (h : ¬ Succeeded (replies (.run command) past)) :
    ∃ failure,
      replies.run (runSuccessfully command) past =
        (.error failure,
          ⟨.run command, replies (.run command) past⟩ :: past) := by
  rw [run_runSuccessfully]
  cases hReply : (replies (.run command) past : Except Failure Output) with
  | error failure => exact ⟨failure, rfl⟩
  | ok output =>
      rw [hReply] at h
      have hCheck : output.check command = .error _ := if_neg h
      exact ⟨_, by rw [← hCheck]; rfl⟩

end Shell

------------------------------------------------------------
-- Steps
------------------------------------------------------------

namespace SystemMounter

variable {replies : Replies Shell}
variable {system : SystemMounter}
variable {source : Option Path}
variable {target : Path}
variable {filesystem : String}
variable {step : Step}
variable {past : Record Shell}

/- A step that goes well is followed by the next one. -/
theorem run_runSteps_of_ok
    (steps : List Step)
    (h :
      Succeeded
        (replies
          (.run (system.launch source target filesystem step).command)
          past)) :
    replies.run
        (system.runSteps source target filesystem (step :: steps))
        past =
      replies.run
        (system.runSteps source target filesystem steps)
        (⟨.run (system.launch source target filesystem step).command,
          replies _ past⟩ :: past) :=
  Replies.run_bind_of_ok (Shell.run_runSuccessfully_of_ok h) _

/- A step that fails is the last one. -/
theorem run_runSteps_of_error
    (steps : List Step)
    (h :
      ¬ Succeeded
        (replies
          (.run (system.launch source target filesystem step).command)
          past)) :
    ∃ failure,
      replies.run
          (system.runSteps source target filesystem (step :: steps))
          past =
        (.error failure,
          ⟨.run (system.launch source target filesystem step).command,
            replies _ past⟩ :: past) := by
  rcases Shell.run_runSuccessfully_of_error h with ⟨failure, hRun⟩
  exact ⟨failure, Replies.run_bind_of_error hRun _⟩

end SystemMounter

------------------------------------------------------------
-- Bind Mounts
------------------------------------------------------------

/- Whether a request is a command to end the mount at a path. -/
def Shell.Request.Unmounts
    (target : Path)
    (request : Shell.Request) : Prop :=
  ∃ command ∈ request.command?,
    command.program = "umount" ∧ target.text ∈ command.arguments

namespace SystemMounter

variable {replies : Replies Shell}
variable {system : SystemMounter}
variable {source : Option Path}
variable {target : Path}
variable {filesystem : String}
variable {options sensitive : List String}

/- The step that makes a bind mount. -/
def bindStep
    (options sensitive : List String) : Step :=
  let bind := BindOptions.ofLists options sensitive
  ⟨none, bind.first, bind.remountSensitive⟩

/- The step that gives a bind mount its options. -/
def remountStep
    (options sensitive : List String) : Step :=
  let bind := BindOptions.ofLists options sensitive
  ⟨none, bind.remount, bind.remountSensitive⟩

theorem mountSteps_of_bind
    (system : SystemMounter)
    (filesystem : String)
    (hBind : "bind" ∈ options ∨ "bind" ∈ sensitive) :
    system.mountSteps filesystem options sensitive =
      [bindStep options sensitive, remountStep options sensitive] :=
  if_pos ((BindOptions.wanted_ofLists options sensitive).mpr hBind)

theorem stepCommand_program_ne_umount
    (step : Step) :
    (system.stepCommand source target filesystem step).program ≠
      "umount" := by
  intro hProgram
  have hHead := system.head?_stepCommand source target filesystem step
  rw [hProgram] at hHead
  exact absurd hHead (by decide)

/- No command of a mount is one to end a mount. -/
theorem not_unmounts_of_mem_run_mount
    {exchange : Exchange Shell}
    (hMem :
      exchange ∈
        (replies.run
          (system.serve
            (.mount source target filesystem options sensitive))
          []).2) :
    ¬ exchange.request.Unmounts target := by
  rintro ⟨command, hCommand, hProgram, _⟩
  rcases (serve_runs system _).of_mem_run replies hMem with
    hPast | hRuns
  · exact nomatch hPast
  · rcases hRuns command hCommand with ⟨step, rfl⟩
    exact stepCommand_program_ne_umount step hProgram

/-
  How a bind mount ends. Its first command fails, or else its
  second command does, or both go well.
-/
theorem run_mount_bind
    (hBind : "bind" ∈ options ∨ "bind" ∈ sensitive)
    (system : SystemMounter)
    (source : Option Path)
    (target : Path)
    (filesystem : String)
    (replies : Replies Shell) :
    let command :=
      system.stepCommand source target filesystem
    let first : Shell.Request :=
      .run (command (bindStep options sensitive))
    let second : Shell.Request :=
      .run (command (remountStep options sensitive))
    let run :=
      replies.run
        (system.mount source target filesystem options sensitive) []
    (∃ error reply,
        ¬ Succeeded reply ∧
          run = (.error error, [⟨first, reply⟩])) ∨
      (∃ error bound reply,
        Succeeded bound ∧ ¬ Succeeded reply ∧
          run = (.error error, [⟨second, reply⟩, ⟨first, bound⟩])) ∨
      ∃ bound reply,
        Succeeded bound ∧ Succeeded reply ∧
          run = (.ok (), [⟨second, reply⟩, ⟨first, bound⟩]) := by
  intro command first second run
  have hRun :
      run =
        ((replies.run
            (system.runSteps source target filesystem
              [bindStep options sensitive,
                remountStep options sensitive]) []).1.mapError
            Error.other,
          (replies.run
            (system.runSteps source target filesystem
              [bindStep options sensitive,
                remountStep options sensitive]) []).2) := by
    rw [← mountSteps_of_bind system filesystem hBind]
    exact Replies.run_mapError replies Error.other _ []
  rw [hRun]
  by_cases hFirst : Succeeded (replies first [])
  · right
    rw [run_runSteps_of_ok _ hFirst]
    by_cases hSecond :
        Succeeded (replies second [⟨first, replies first []⟩])
    · right
      rw [run_runSteps_of_ok _ hSecond]
      exact ⟨_, _, hFirst, hSecond, rfl⟩
    · left
      rcases run_runSteps_of_error [] hSecond with
        ⟨failure, hFailed⟩
      rw [hFailed]
      exact ⟨_, _, _, hFirst, hSecond, rfl⟩
  · left
    rcases run_runSteps_of_error _ hFirst with ⟨failure, hFailed⟩
    rw [hFailed]
    exact ⟨_, _, hFirst, rfl⟩

/- It fails if one of the two commands does. -/
theorem run_mount_bind_eq_error_iff
    (hBind : "bind" ∈ options ∨ "bind" ∈ sensitive)
    (system : SystemMounter)
    (source : Option Path)
    (target : Path)
    (filesystem : String)
    (replies : Replies Shell) :
    let command :=
      system.stepCommand source target filesystem
    let first : Shell.Request :=
      .run (command (bindStep options sensitive))
    let second : Shell.Request :=
      .run (command (remountStep options sensitive))
    let run :=
      replies.run
        (system.mount source target filesystem options sensitive) []
    (∃ error, run.1 = .error error) ↔
      (∃ reply, ¬ Succeeded reply ∧ run.2 = [⟨first, reply⟩]) ∨
      ∃ bound reply,
        Succeeded bound ∧ ¬ Succeeded reply ∧
          run.2 = [⟨second, reply⟩, ⟨first, bound⟩] := by
  intro command first second run
  constructor
  · rintro ⟨error, hError⟩
    rcases run_mount_bind hBind system source target filesystem
        replies with
      ⟨_, reply, hFailed, hRun⟩ |
      ⟨_, bound, reply, hBound, hFailed, hRun⟩ |
      ⟨bound, reply, _, _, hRun⟩
    · exact .inl ⟨reply, hFailed, congrArg Prod.snd hRun⟩
    · exact .inr
        ⟨bound, reply, hBound, hFailed, congrArg Prod.snd hRun⟩
    · exact nomatch (congrArg Prod.fst hRun).symm.trans hError
  · intro hRecord
    rcases run_mount_bind hBind system source target filesystem
        replies with
      ⟨error, _, _, hRun⟩ | ⟨error, _, _, _, _, hRun⟩ |
      ⟨bound, reply, _, hDone, hRun⟩
    · exact ⟨error, congrArg Prod.fst hRun⟩
    · exact ⟨error, congrArg Prod.fst hRun⟩
    · have hShown : run.2 = [⟨second, reply⟩, ⟨first, bound⟩] :=
        congrArg Prod.snd hRun
      rcases hRecord with ⟨_, _, hShown'⟩ | ⟨_, _, _, hFailed, hShown'⟩
      · rw [hShown] at hShown'
        simpa using congrArg List.length hShown'
      · rw [hShown] at hShown'
        cases hShown'
        exact absurd hDone hFailed

/-
  A bind mount fails if its first command does, which is then
  the only one, or if its second command does, after which
  there is none. No command ends the mount that the first one
  has made.
-/
theorem failed_bind_mount_stays
    (hBind : "bind" ∈ options ∨ "bind" ∈ sensitive)
    (system : SystemMounter)
    (source : Option Path)
    (target : Path)
    (filesystem : String)
    (replies : Replies Shell) :
    let command :=
      system.stepCommand source target filesystem
    let first : Shell.Request :=
      .run (command (bindStep options sensitive))
    let second : Shell.Request :=
      .run (command (remountStep options sensitive))
    let run :=
      replies.run
        (system.serve
          (.mount source target filesystem options sensitive)) []
    ((∃ error, run.1 = .error error) ↔
      (∃ reply,
        ¬ Succeeded reply ∧ run.2 = [⟨first, reply⟩]) ∨
      ∃ bound reply,
        Succeeded bound ∧ ¬ Succeeded reply ∧
          run.2 = [⟨second, reply⟩, ⟨first, bound⟩]) ∧
    ∀ exchange ∈ run.2, ¬ exchange.request.Unmounts target := by
  intro command first second run
  constructor
  · exact run_mount_bind_eq_error_iff hBind system source target
      filesystem replies
  · intro exchange hMem
    exact not_unmounts_of_mem_run_mount hMem

/- A mounter that makes no scopes. -/
def plainMounter : SystemMounter :=
  ⟨⟨"/sbin/mount.nfs"⟩, false⟩

/- Commands of which only the first one does what it should. -/
def onlyFirst : Replies Shell
  | .run _, [] => .ok ⟨.ofCode 0, []⟩
  | .run _, _ => .ok ⟨.ofCode 32, []⟩
  | .search _, _ => none
  | .runWithin _ _, _ => .ok none
  | .resolve path, _ => .ok path.raw
  | .inspect _, _ => .ok []
  | .read _, _ => .ok []
  | .usage _, _ => .ok {}

/- The second command of a read-only bind mount fails. -/
theorem failed_bind_mount_stays_half_done :
    let mount : Call :=
      .mount (some ⟨"/staged"⟩) ⟨"/target"⟩ "" ["bind", "ro"] []
    let run := onlyFirst.run (plainMounter.serve mount) []
    ("bind" ∈ ["bind", "ro"] ∨ "bind" ∈ ([] : List String)) ∧
      (∃ error, run.1 = .error error) ∧
      (∃ bound reply,
        Succeeded bound ∧ ¬ Succeeded reply ∧
          run.2 =
            [⟨.run
                ⟨"./mount",
                  ["-o", "bind,remount,ro", "/staged", "/target"]⟩,
              reply⟩,
            ⟨.run
                ⟨"./mount", ["-o", "bind", "/staged", "/target"]⟩,
              bound⟩]) ∧
      ∀ exchange ∈ run.2,
        ¬ exchange.request.Unmounts ⟨"/target"⟩ := by
  intro mount run
  have hBind :
      "bind" ∈ ["bind", "ro"] ∨ "bind" ∈ ([] : List String) := by
    decide
  rcases failed_bind_mount_stays hBind plainMounter
      (some ⟨"/staged"⟩) ⟨"/target"⟩ "" onlyFirst with
    ⟨hError, hStays⟩
  refine ⟨hBind, ⟨_, rfl⟩, ?_, hStays⟩
  rcases hError.mp ⟨_, rfl⟩ with
    ⟨reply, hFailed, hRun⟩ | ⟨bound, reply, hBound, hFailed, hRun⟩
  · have hLength : 2 = 1 := congrArg List.length hRun
    exact absurd hLength (by decide)
  · exact ⟨bound, reply, hBound, hFailed, hRun⟩

/- The mount fails, and what its first command did stays. -/
theorem bind_mount_left_behind :
    let run :=
      onlyFirst.run
        (plainMounter.serve
          (.mount (some ⟨"/staged"⟩) ⟨"/target"⟩ "" ["bind", "ro"]
            [])) []
    (∃ error, run.1 = .error error) ∧
    run.2 =
      [⟨.run
          ⟨"./mount",
            ["-o", "bind,remount,ro", "/staged", "/target"]⟩,
        .ok ⟨.ofCode 32, []⟩⟩,
      ⟨.run ⟨"./mount", ["-o", "bind", "/staged", "/target"]⟩,
        .ok ⟨.ofCode 0, []⟩⟩] ∧
    Succeeded (.ok ⟨.ofCode 0, []⟩) ∧
    ∀ exchange ∈ run.2, ¬ exchange.request.Unmounts ⟨"/target"⟩ :=
  ⟨⟨_, rfl⟩, rfl, rfl,
    fun _ hMem => not_unmounts_of_mem_run_mount hMem⟩

end SystemMounter

end Mount

end BlockVolumes
