import BlockVolumes.Proofs.System.Binding

/-
  What the log tells of the commands that mount a filesystem.
  Sensitive options go into one argument of each command, at
  its end, and nowhere else, so that the text for the log is
  the same whatever they are.

  Key definitions include:
    * `Mount.Template`
    * `Mount.CommandLine.Carries`
    * `Mount.SystemMounter.launches`
    * `Mount.IsHidden`

  Key theorems include:
    * `Mount.CommandLine.ofMount_carries`
    * `Mount.SystemMounter.launch_carries`
    * `Mount.SystemMounter.run_mount_launches`
    * `Mount.SystemMounter.launches_hide_sensitive`
-/

namespace BlockVolumes

namespace Mount

open Interface (Exchange Record Replies)

------------------------------------------------------------
-- Templates
------------------------------------------------------------

/-
  A command line that lacks its sensitive options: what stands
  before the argument of `-o`, how this argument starts, what
  stands behind it, and the text for the log.
-/
structure Template where
  before : List String
  stem : String
  after : List String
  log : String

/- The line with sensitive options. -/
def Template.fill
    (template : Template)
    (sensitive : List String) : CommandLine :=
  ⟨template.before ++
    "-o" :: (template.stem ++ Text.joinWith "," sensitive) ::
      template.after,
    template.log⟩

/-
  Whether sensitive options make no difference to lines but for
  the end of one argument.
-/
def CommandLine.Carries
    (lines : List String → CommandLine) : Prop :=
  ∃ template : Template,
    ∀ sensitive, sensitive ≠ [] →
      lines sensitive = template.fill sensitive

namespace CommandLine

variable {lines : List String → CommandLine}

/- The start of an argument that sensitive options end. -/
def stemOf
    (options : List String) : String :=
  if options.isEmpty then "" else Text.joinWith "," options ++ ","

theorem joinWith_append
    (options : List String)
    {sensitive : List String}
    (hSome : sensitive ≠ []) :
    Text.joinWith "," (options ++ sensitive) =
      stemOf options ++ Text.joinWith "," sensitive := by
  unfold stemOf Text.joinWith
  by_cases hNone : options = []
  · simp [hNone]
  · rw [if_neg (by simpa using hNone),
      String.intercalate_append_of_ne_nil hNone hSome]

theorem optionsPart_carries
    (options : List String) :
    Carries (optionsPart options) := by
  refine ⟨⟨[], stemOf options, [],
    " -o " ++ Text.joinWith "," options⟩, ?_⟩
  intro sensitive hSome
  unfold optionsPart
  rw [if_neg (by simp [hSome]), joinWith_append options hSome]
  rfl

theorem Carries.append_left
    (h : Carries lines)
    (part : CommandLine) :
    Carries fun sensitive => part.append (lines sensitive) := by
  rcases h with ⟨template, hFill⟩
  refine ⟨{ template with
    before := part.arguments ++ template.before
    log := part.log ++ template.log }, ?_⟩
  intro sensitive hSome
  dsimp only
  rw [hFill sensitive hSome]
  simp [append, Template.fill]

theorem Carries.append_right
    (h : Carries lines)
    (part : CommandLine) :
    Carries fun sensitive => (lines sensitive).append part := by
  rcases h with ⟨template, hFill⟩
  refine ⟨{ template with
    after := template.after ++ part.arguments
    log := template.log ++ part.log }, ?_⟩
  intro sensitive hSome
  dsimp only
  rw [hFill sensitive hSome]
  simp [append, Template.fill]

theorem Carries.after
    (h : Carries lines)
    (argument : String) :
    Carries fun sensitive => (lines sensitive).after argument := by
  rcases h with ⟨template, hFill⟩
  refine ⟨{ template with
    before := argument :: template.before
    log := argument ++ " " ++ template.log }, ?_⟩
  intro sensitive hSome
  dsimp only
  rw [hFill sensitive hSome]
  simp [CommandLine.after, Template.fill]

theorem Carries.inScope
    (h : Carries lines)
    (target : Path)
    (command : String) :
    Carries fun sensitive =>
      CommandLine.inScope target command (lines sensitive) := by
  rcases h with ⟨template, hFill⟩
  let start : CommandLine :=
    CommandLine.inScope target command ⟨[], template.log⟩
  refine ⟨{ template with
    before := start.arguments ++ template.before
    log := start.log }, ?_⟩
  intro sensitive hSome
  dsimp only
  rw [hFill sensitive hSome]
  simp [start, CommandLine.inScope, Template.fill]

/- The line for a mount carries its sensitive options. -/
theorem ofMount_carries
    (source : Option Path)
    (target : Path)
    (filesystem : String)
    (options : List String) :
    Carries (ofMount source target filesystem options) :=
  (((optionsPart_carries options).append_left _).append_right
    _).append_right _

end CommandLine

------------------------------------------------------------
-- Launches
------------------------------------------------------------

namespace SystemMounter

variable {system : SystemMounter}
variable {source : Option Path}
variable {target : Path}
variable {filesystem : String}
variable {options sensitive first second : List String}

/- The launches of a mount, one for each step. -/
def launches
    (system : SystemMounter)
    (source : Option Path)
    (target : Path)
    (filesystem : String)
    (options sensitive : List String) : List Launch :=
  (system.mountSteps filesystem options sensitive).map
    (system.launch source target filesystem)

/-
  The program of a step does not depend on its options, and its
  line carries the sensitive ones.
-/
theorem launch_carries
    (system : SystemMounter)
    (source : Option Path)
    (target : Path)
    (filesystem : String)
    (replacement : Option Path)
    (options : List String) :
    ∃ program, ∃ template : Template,
      ∀ sensitive, sensitive ≠ [] →
        system.launch source target filesystem
            ⟨replacement, options, sensitive⟩ =
          ⟨program, template.fill sensitive⟩ := by
  have hMount :=
    CommandLine.ofMount_carries source target filesystem options
  rcases system with ⟨networkMounter, usesScopes⟩
  cases replacement with
  | none =>
      cases usesScopes with
      | false =>
          rcases hMount with ⟨template, hFill⟩
          refine ⟨mountProgram, template, fun sensitive hSome => ?_⟩
          rw [← hFill sensitive hSome]
          rfl
      | true =>
          rcases hMount.inScope target mountProgram.text with
            ⟨template, hFill⟩
          refine ⟨⟨scopeProgram⟩, template, fun sensitive hSome => ?_⟩
          rw [← hFill sensitive hSome]
          rfl
  | some path =>
      cases usesScopes with
      | false =>
          rcases hMount.after path.text with ⟨template, hFill⟩
          refine ⟨path, template, fun sensitive hSome => ?_⟩
          rw [← hFill sensitive hSome]
          rfl
      | true =>
          rcases (hMount.after path.text).inScope target path.text with
            ⟨template, hFill⟩
          refine ⟨⟨scopeProgram⟩, template, fun sensitive hSome => ?_⟩
          rw [← hFill sensitive hSome]
          rfl

/- All launches of some steps, with the options that they get. -/
theorem map_launch_carries
    (system : SystemMounter)
    (source : Option Path)
    (target : Path)
    (filesystem : String)
    (steps : List Step) :
    ∃ templates : List (Path × Template),
      ∀ sensitive, sensitive ≠ [] →
        (steps.map fun step =>
          system.launch source target filesystem
            { step with sensitive := sensitive }) =
        templates.map fun template =>
          ⟨template.1, template.2.fill sensitive⟩ := by
  induction steps with
  | nil => exact ⟨[], fun _ _ => rfl⟩
  | cons step steps ih =>
      rcases ih with ⟨templates, hRest⟩
      rcases system.launch_carries source target filesystem
          step.replacement step.options with
        ⟨program, template, hFill⟩
      refine ⟨(program, template) :: templates, ?_⟩
      intro sensitive hSome
      rw [List.map_cons, List.map_cons, hRest sensitive hSome,
        ← hFill sensitive hSome]

------------------------------------------------------------
-- Steps
------------------------------------------------------------

end SystemMounter

/-
  Whether sensitive options hold neither of the two options
  that have a part in a bind mount.
-/
structure IsHidden
    (sensitive : List String) : Prop where
  notBind : "bind" ∉ sensitive
  notNetwork : "_netdev" ∉ sensitive

namespace SystemMounter

/- Hidden options are given in every step, and change none. -/
theorem mountSteps_of_hidden
    (system : SystemMounter)
    (filesystem : String)
    (options : List String)
    (h : IsHidden sensitive) :
    system.mountSteps filesystem options sensitive =
      (system.mountSteps filesystem options []).map
        fun step => { step with sensitive := sensitive } := by
  have hCount : sensitive.count "_netdev" = 0 :=
    List.count_eq_zero.mpr h.notNetwork
  have hContains : sensitive.contains "bind" = false := by
    simpa using h.notBind
  have hAll :
      (sensitive.filter fun option =>
        option ≠ "bind" ∧ option ≠ "_netdev") = sensitive := by
    rw [List.filter_eq_self]
    intro option hMem
    have hBind : option ≠ "bind" := by
      rintro rfl
      exact h.notBind hMem
    have hNetwork : option ≠ "_netdev" := by
      rintro rfl
      exact h.notNetwork hMem
    simp [hBind, hNetwork]
  unfold mountSteps
  simp only [BindOptions.ofLists_eq, hAll, hCount, hContains,
    List.count_append]
  split
  · simp_all
  · split <;> simp_all

theorem launches_carry
    (system : SystemMounter)
    (source : Option Path)
    (target : Path)
    (filesystem : String)
    (options : List String) :
    ∃ templates : List (Path × Template),
      ∀ sensitive, IsHidden sensitive → sensitive ≠ [] →
        system.launches source target filesystem options sensitive =
          templates.map fun template =>
            ⟨template.1, template.2.fill sensitive⟩ := by
  rcases system.map_launch_carries source target filesystem
      (system.mountSteps filesystem options []) with
    ⟨templates, hFill⟩
  refine ⟨templates, fun sensitive hHidden hSome => ?_⟩
  rw [← hFill sensitive hSome, launches,
    mountSteps_of_hidden system filesystem options hHidden,
    List.map_map]
  rfl

------------------------------------------------------------
-- Runs
------------------------------------------------------------

/- What was asked of the system, the latest request first. -/
def requestsOf
    (record : Record Shell) : List Shell.Request :=
  record.map Exchange.request

/- The steps that are run are the first ones, in their order. -/
theorem run_runSteps_launches
    (system : SystemMounter)
    (source : Option Path)
    (target : Path)
    (filesystem : String)
    (replies : Replies Shell)
    (steps : List Step)
    (past : Record Shell) :
    ∃ done, done <+: steps ∧
      requestsOf
          (replies.run
            (system.runSteps source target filesystem steps)
            past).2 =
        (done.map fun step =>
          Shell.Request.run
            (system.stepCommand source target filesystem
              step)).reverse ++ requestsOf past := by
  induction steps generalizing past with
  | nil => exact ⟨[], List.prefix_rfl, rfl⟩
  | cons step steps ih =>
      by_cases hStep :
          Succeeded
            (replies
              (.run
                (system.launch source target filesystem
                  step).command) past)
      · rw [run_runSteps_of_ok steps hStep]
        rcases ih (⟨.run _, replies _ past⟩ :: past) with
          ⟨done, hPrefix, hRequests⟩
        refine ⟨step :: done, ?_, ?_⟩
        · exact List.cons_prefix_cons.mpr ⟨rfl, hPrefix⟩
        · rw [hRequests, List.map_cons, List.reverse_cons,
            List.append_assoc]
          rfl
      · rcases run_runSteps_of_error steps hStep with
          ⟨failure, hFailed⟩
        rw [hFailed]
        refine ⟨[step], ?_, rfl⟩
        exact List.cons_prefix_cons.mpr ⟨rfl, List.nil_prefix⟩

/-
  All that a mount asks of the system is that its launches are
  run, one after the other.
-/
theorem run_mount_launches
    (system : SystemMounter)
    (source : Option Path)
    (target : Path)
    (filesystem : String)
    (options sensitive : List String)
    (replies : Replies Shell) :
    ∃ done,
      done <+:
        system.launches source target filesystem options sensitive ∧
      requestsOf
          (replies.run
            (system.serve
              (.mount source target filesystem options sensitive))
            []).2 =
        (done.map fun launch =>
          Shell.Request.run launch.command).reverse := by
  rcases run_runSteps_launches system source target filesystem
      replies (system.mountSteps filesystem options sensitive) [] with
    ⟨done, hPrefix, hRequests⟩
  have hRun :=
    Replies.run_mapError replies Error.other
      (system.runSteps source target filesystem
        (system.mountSteps filesystem options sensitive)) []
  refine ⟨done.map (system.launch source target filesystem),
    hPrefix.map _, ?_⟩
  calc requestsOf
          (replies.run
            (system.serve
              (.mount source target filesystem options sensitive))
            []).2
      = requestsOf
          (replies.run
            (system.runSteps source target filesystem
              (system.mountSteps filesystem options sensitive))
            []).2 :=
        congrArg (fun run => requestsOf run.2) hRun
    _ = (done.map fun step =>
          Shell.Request.run
            (system.stepCommand source target filesystem
              step)).reverse ++ [] := hRequests
    _ = _ := by
        rw [List.append_nil, List.map_map]
        rfl

/-
  A mount runs its launches only, one or two of them. Sensitive
  options stand at the end of one argument of each launch. All
  else is the same whatever they are, and so are the texts for
  the log, as long as there are any such options or none.
-/
theorem launches_hide_sensitive
    (system : SystemMounter)
    (source : Option Path)
    (target : Path)
    (filesystem : String)
    (options : List String)
    (hFirst : IsHidden first)
    (hSecond : IsHidden second)
    (hBoth : first = [] ↔ second = []) :
    let launches :=
      system.launches source target filesystem options
    (launches first).map (·.line.log) =
      (launches second).map (·.line.log) ∧
    (∃ templates : List (Path × Template),
      ∀ sensitive, IsHidden sensitive → sensitive ≠ [] →
        launches sensitive =
          templates.map fun template =>
            ⟨template.1, template.2.fill sensitive⟩) ∧
    ∀ sensitive (replies : Replies Shell),
      ∃ done, done <+: launches sensitive ∧
        requestsOf
            (replies.run
              (system.serve
                (.mount source target filesystem options sensitive))
              []).2 =
          (done.map fun launch =>
            Shell.Request.run launch.command).reverse := by
  intro launches
  have hCarry :
      ∃ templates : List (Path × Template),
        ∀ sensitive, IsHidden sensitive → sensitive ≠ [] →
          launches sensitive =
            templates.map fun template =>
              ⟨template.1, template.2.fill sensitive⟩ :=
    system.launches_carry source target filesystem options
  refine ⟨?_, hCarry, ?_⟩
  · by_cases hNone : first = []
    · rw [hNone, hBoth.mp hNone]
    · rcases hCarry with ⟨templates, hFill⟩
      have hSome : second ≠ [] := hBoth.not.mp hNone
      calc (launches first).map (·.line.log)
          = templates.map (·.2.log) := by
            rw [hFill first hFirst hNone, List.map_map]
            rfl
        _ = (launches second).map (·.line.log) := by
            rw [hFill second hSecond hSome, List.map_map]
            rfl
  · intro sensitive replies
    exact run_mount_launches system source target filesystem options
      sensitive replies

/- A bind mount in scopes, with two passwords. -/
theorem launches_hide_sensitive_bind :
    let system : SystemMounter := ⟨⟨"/sbin/mount.nfs"⟩, true⟩
    let launches :=
      system.launches (some ⟨"/staged"⟩) ⟨"/target"⟩ ""
        ["bind", "ro"]
    let first := ["password=x"]
    let second := ["username=me", "password=y"]
    IsHidden first ∧ IsHidden second ∧
      (first = [] ↔ second = []) ∧
      (launches first).map (·.line.log) =
        (launches second).map (·.line.log) ∧
      (launches second).map (·.line.arguments) =
        [["--description=Block disk CSI transient mount for /target",
          "--scope", "--", "mount", "-o",
          "bind,username=me,password=y", "/staged", "/target"],
        ["--description=Block disk CSI transient mount for /target",
          "--scope", "--", "mount", "-o",
          "bind,remount,ro,username=me,password=y", "/staged",
          "/target"]] := by
  intro system launches first second
  have hFirst : IsHidden first := ⟨by decide, by decide⟩
  have hSecond : IsHidden second := ⟨by decide, by decide⟩
  have hBoth : first = [] ↔ second = [] := by decide
  have hLogs :=
    (launches_hide_sensitive system (some ⟨"/staged"⟩) ⟨"/target"⟩
      "" ["bind", "ro"] hFirst hSecond hBoth).1
  exact ⟨hFirst, hSecond, hBoth, hLogs, by decide⟩

end SystemMounter

end Mount

end BlockVolumes
