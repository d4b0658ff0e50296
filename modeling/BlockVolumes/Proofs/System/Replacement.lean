import BlockVolumes.Proofs.System.Logging

/-
  The program that mounts network filesystems in place of the
  usual one. A mount that is no bind mount takes one command,
  for which the same arguments are put together in any case.
  The program that replaces the usual one does not just get
  these: its own path stands in front of them once more.

  Key definitions include:
    * `Mount.Command.scoped`
    * `Mount.SystemMounter.replacement?`
    * `Mount.SystemMounter.Starts`

  Key theorems include:
    * `Mount.CommandLine.scoped_inScope`
    * `Mount.SystemMounter.launch_starts`
    * `Mount.SystemMounter.run_mount_direct`
    * `Mount.SystemMounter.replacement_gets_own_path`
-/

namespace BlockVolumes

namespace Mount

open Interface (Replies)

------------------------------------------------------------
-- Scopes
------------------------------------------------------------

/-
  What a command runs in a scope of its own: the words behind
  the two dashes with which the options of the scope end.
-/
def Command.scoped
    (command : Command) : List String :=
  (command.arguments.dropWhile (· ≠ "--")).drop 1

namespace CommandLine

/- The text about the target is not taken for the dashes. -/
theorem description_ne_dashes
    (target : Path) :
    "--description=Block disk CSI transient mount for " ++
        target.text ≠ "--" := by
  intro hEq
  have hLength := congrArg String.length hEq
  rw [String.length_append] at hLength
  have hLong :
      "--description=Block disk CSI transient mount for ".length =
        49 := by
    decide
  have hShort : "--".length = 2 := by decide
  omega

/- A scope runs the given command with the given arguments. -/
theorem scoped_inScope
    (program : String)
    (target : Path)
    (command : String)
    (line : CommandLine) :
    Command.scoped
        ⟨program, (inScope target command line).arguments⟩ =
      command :: line.arguments := by
  have hDescription := description_ne_dashes target
  simp [Command.scoped, inScope, hDescription]

end CommandLine

------------------------------------------------------------
-- Direct Mounts
------------------------------------------------------------

namespace SystemMounter

variable {source : Option Path}
variable {target : Path}
variable {filesystem : String}
variable {options sensitive : List String}

/- The program that replaces the usual one, if any does. -/
def replacement?
    (system : SystemMounter)
    (filesystem : String) : Option Path :=
  if filesystem ∈ networkFilesystems then some system.networkMounter
  else none

/-
  Whether a command starts a program with some arguments, in a
  scope of its own where the system makes scopes.
-/
def Starts
    (system : SystemMounter)
    (program : Path)
    (arguments : List String)
    (command : Command) : Prop :=
  if system.usesScopes then
    command.program = "./systemd-run" ∧
      command.scoped = program.text :: arguments
  else
    command = .ofPath program arguments

instance
    (system : SystemMounter)
    (program : Path)
    (arguments : List String)
    (command : Command) :
    Decidable (system.Starts program arguments command) := by
  unfold Starts
  infer_instance

/- Scopes are made by the program in the working directory. -/
theorem ofPath_scopeProgram
    (arguments : List String) :
    Command.ofPath ⟨scopeProgram⟩ arguments =
      ⟨"./systemd-run", arguments⟩ := by
  have hRelative : (Path.mk scopeProgram).isAbsolute = false := by
    decide
  have hProgram : "./" ++ scopeProgram = "./systemd-run" := by
    decide
  simp [Command.ofPath, hRelative, hProgram]

/- In a scope, a launch starts what the scope is to run. -/
theorem starts_inScope
    {system : SystemMounter}
    (hScopes : system.usesScopes = true)
    (target program : Path)
    (line : CommandLine) :
    system.Starts program line.arguments
      (Launch.command
        ⟨⟨scopeProgram⟩, .inScope target program.text line⟩) := by
  unfold Starts Launch.command
  rw [if_pos hScopes, ofPath_scopeProgram]
  exact ⟨rfl, CommandLine.scoped_inScope _ target _ line⟩

/- A command starts a program with one list of arguments. -/
theorem Starts.arguments_inj
    {system : SystemMounter}
    {program : Path}
    {first second : List String}
    {command : Command}
    (hFirst : system.Starts program first command)
    (hSecond : system.Starts program second command) :
    first = second := by
  unfold Starts at hFirst hSecond
  split at hFirst
  · next hScopes =>
      rw [if_pos hScopes] at hSecond
      exact (List.cons.inj (hFirst.2.symm.trans hSecond.2)).2
  · next hScopes =>
      rw [if_neg hScopes] at hSecond
      have hEq := congrArg Command.arguments
        (hFirst.symm.trans hSecond)
      unfold Command.ofPath at hEq
      split at hEq <;> exact hEq

/- The arguments of a step, which a replacement gets in its way. -/
theorem launch_starts
    (system : SystemMounter)
    (source : Option Path)
    (target : Path)
    (filesystem : String)
    (step : Step) :
    let line :=
      CommandLine.ofMount source target filesystem step.options
        step.sensitive
    system.Starts (step.replacement.getD mountProgram)
      (step.replacement.toList.map Path.text ++ line.arguments)
      (system.stepCommand source target filesystem step) := by
  intro line
  rcases step with ⟨replacement, options, sensitive⟩
  by_cases hScopes : system.usesScopes = true
  · cases replacement with
    | none =>
        simpa [stepCommand, launch, hScopes] using
          starts_inScope hScopes target mountProgram line
    | some path =>
        simpa [stepCommand, launch, hScopes, CommandLine.after] using
          starts_inScope hScopes target path (line.after path.text)
  · unfold Starts
    rw [if_neg hScopes]
    cases replacement <;>
      simp [stepCommand, launch, hScopes, Launch.command, line,
        CommandLine.after]

theorem mountSteps_of_direct
    (system : SystemMounter)
    (filesystem : String)
    (hOptions : "bind" ∉ options)
    (hSensitive : "bind" ∉ sensitive) :
    system.mountSteps filesystem options sensitive =
      [⟨system.replacement? filesystem, options, sensitive⟩] := by
  have hDirect :
      ¬ (BindOptions.ofLists options sensitive).wanted = true := by
    rw [BindOptions.wanted_ofLists]
    rintro (hBind | hBind)
    · exact hOptions hBind
    · exact hSensitive hBind
  unfold mountSteps replacement?
  rw [if_neg hDirect]
  split <;> rfl

/- A mount that is no bind mount is a matter of one command. -/
theorem run_mount_direct
    (hOptions : "bind" ∉ options)
    (hSensitive : "bind" ∉ sensitive)
    (system : SystemMounter)
    (source : Option Path)
    (target : Path)
    (filesystem : String)
    (replies : Replies Shell) :
    let command :=
      system.stepCommand source target filesystem
        ⟨system.replacement? filesystem, options, sensitive⟩
    let run :=
      replies.run
        (system.serve
          (.mount source target filesystem options sensitive)) []
    run.2 = [⟨.run command, replies (.run command) []⟩] ∧
      ((∃ error, run.1 = .error error) ↔
        ¬ Succeeded (replies (.run command) [])) := by
  intro command run
  have hRun :
      run =
        ((replies.run
            (system.runSteps source target filesystem
              [⟨system.replacement? filesystem, options,
                sensitive⟩]) []).1.mapError Error.other,
          (replies.run
            (system.runSteps source target filesystem
              [⟨system.replacement? filesystem, options,
                sensitive⟩]) []).2) := by
    rw [← mountSteps_of_direct system filesystem hOptions hSensitive]
    exact Replies.run_mapError replies Error.other _ []
  rw [hRun]
  by_cases hDone : Succeeded (replies (.run command) [])
  · rw [run_runSteps_of_ok [] hDone]
    exact ⟨rfl, nofun, fun hFailed => absurd hDone hFailed⟩
  · rcases run_runSteps_of_error [] hDone with ⟨failure, hFailed⟩
    rw [hFailed]
    exact ⟨rfl, fun _ => hDone, fun _ => ⟨_, rfl⟩⟩

------------------------------------------------------------
-- Network Filesystems
------------------------------------------------------------

/-
  A mount that is no bind mount runs one command, and fails if
  this does. The usual program gets the arguments that are put
  together for the mount. The one that replaces it for network
  filesystems gets its own path and then these arguments, so
  that it is never called as the usual program would be.
-/
theorem replacement_gets_own_path
    (hOptions : "bind" ∉ options)
    (hSensitive : "bind" ∉ sensitive)
    (system : SystemMounter)
    (source : Option Path)
    (target : Path)
    (filesystem : String)
    (replies : Replies Shell) :
    let arguments :=
      (CommandLine.ofMount source target filesystem options
        sensitive).arguments
    let run :=
      replies.run
        (system.serve
          (.mount source target filesystem options sensitive)) []
    ∃ command reply,
      run.2 = [⟨.run command, reply⟩] ∧
        ((∃ error, run.1 = .error error) ↔ ¬ Succeeded reply) ∧
        (filesystem ∉ networkFilesystems →
          system.Starts mountProgram arguments command) ∧
        (filesystem ∈ networkFilesystems →
          system.Starts system.networkMounter
              (system.networkMounter.text :: arguments) command ∧
            ¬ system.Starts system.networkMounter arguments
              command) := by
  intro arguments run
  rcases run_mount_direct hOptions hSensitive system source target
      filesystem replies with ⟨hRecord, hEnd⟩
  have hStarts :=
    system.launch_starts source target filesystem
      ⟨system.replacement? filesystem, options, sensitive⟩
  refine ⟨_, _, hRecord, hEnd, ?_, ?_⟩
  · intro hUsual
    simpa [replacement?, hUsual] using hStarts
  · intro hNetwork
    have hOwn :
        system.Starts system.networkMounter
          (system.networkMounter.text :: arguments)
          (system.stepCommand source target filesystem
            ⟨system.replacement? filesystem, options,
              sensitive⟩) := by
      simpa [replacement?, hNetwork] using hStarts
    refine ⟨hOwn, fun hSame => ?_⟩
    exact List.cons_ne_self _ _ (hOwn.arguments_inj hSame)

/- A share with a password is mounted in a scope. -/
theorem replacement_gets_own_path_in_scope :
    let system : SystemMounter := ⟨⟨"/sbin/mount.cifs"⟩, true⟩
    let run :=
      onlyFirst.run
        (system.serve
          (.mount (some ⟨"//server/share"⟩) ⟨"/target"⟩ "cifs"
            ["ro"] ["password=x"])) []
    "bind" ∉ ["ro"] ∧ "bind" ∉ ["password=x"] ∧
      "cifs" ∈ networkFilesystems ∧
      ∃ command reply,
        run.2 = [⟨.run command, reply⟩] ∧
          command.program = "./systemd-run" ∧
          command.scoped =
            ["/sbin/mount.cifs", "/sbin/mount.cifs", "-t", "cifs",
              "-o", "ro,password=x", "//server/share",
              "/target"] := by
  intro system run
  have hOptions : "bind" ∉ ["ro"] := by decide
  have hSensitive : "bind" ∉ ["password=x"] := by decide
  have hNetwork : "cifs" ∈ networkFilesystems := by decide
  rcases replacement_gets_own_path hOptions hSensitive system
      (some ⟨"//server/share"⟩) ⟨"/target"⟩ "cifs" onlyFirst with
    ⟨command, reply, hRecord, _, _, hReplaced⟩
  rcases (hReplaced hNetwork).1 with ⟨hProgram, hScoped⟩
  exact ⟨hOptions, hSensitive, hNetwork, command, reply, hRecord,
    hProgram, hScoped⟩

/-
  The path of the replacement stands where its first argument
  should be, so that it is not called as the usual program.
-/
theorem replacement_not_called_as_usual :
    let run :=
      onlyFirst.run
        (plainMounter.serve
          (.mount (some ⟨"server:/share"⟩) ⟨"/target"⟩ "nfs" []
            [])) []
    let arguments :=
      (CommandLine.ofMount (some ⟨"server:/share"⟩) ⟨"/target"⟩
        "nfs" [] []).arguments
    let command : Command :=
      ⟨"/sbin/mount.nfs",
        ["/sbin/mount.nfs", "-t", "nfs", "server:/share",
          "/target"]⟩
    plainMounter.networkMounter = ⟨"/sbin/mount.nfs"⟩ ∧
      "nfs" ∈ networkFilesystems ∧
      arguments = ["-t", "nfs", "server:/share", "/target"] ∧
      run.2 = [⟨.run command, .ok ⟨.ofCode 0, []⟩⟩] ∧
      ¬ plainMounter.Starts ⟨"/sbin/mount.nfs"⟩ arguments
        command := by
  intro run arguments command
  exact ⟨rfl, by decide, by decide, rfl, by decide⟩

end SystemMounter

end Mount

end BlockVolumes
