import BlockVolumes.Files.Tree
import BlockVolumes.Mount.Shell

/-
  A system in memory: a tree of files, and programs that do
  what a script says each time they are run.

  Key definitions include:
    * `Memory.Behaviour`
    * `Memory.Shell`
    * `Memory.Shell.run`
    * `Memory.Shell.answer`
-/

namespace BlockVolumes

namespace Memory

open Files (Failure)
open Mount (Command Output ExitStatus)

------------------------------------------------------------
-- State
------------------------------------------------------------

/- How a run of a program ends. -/
inductive Ending where
  | code (code : UInt8)
  | signal (signal : UInt32)
  | never
  deriving DecidableEq, Repr

/- What a program does when it is run. -/
structure Behaviour where
  ending : Ending := .code 0
  output : List UInt8 := []
  deriving DecidableEq, Repr

/- A program: where it stands and what it does next. -/
structure Script where
  place : FilePlace
  next : List Behaviour
  deriving DecidableEq, Repr

/-
  The state of a system. Programs without a path are looked
  for in one directory.
-/
structure Shell where
  tree : FileTree := {}
  searchDirectory : FilePlace := []
  scripts : List Script := []
  log : List (List String) := []
  deriving Repr

namespace Shell

------------------------------------------------------------
-- Programs
------------------------------------------------------------

/- The text before the names in the search directory. -/
def searchText
    (shell : Shell) : String :=
  (Path.ofNames shell.searchDirectory).text ++ "/"

/-
  The path of a program. A name without a slash stands for a
  program of the search directory.
-/
def pathOf
    (shell : Shell)
    (program : String) : Path :=
  if program.toList.contains '/' then ⟨program⟩
  else ⟨shell.searchText ++ program⟩

/- Whether there is a script for the program at a place. -/
def hasScript
    (shell : Shell)
    (place : FilePlace) : Bool :=
  shell.scripts.any fun script => script.place == place

/- The place of the program of a command, links followed. -/
def locate
    (shell : Shell)
    (program : String) : Except Failure FilePlace := do
  let place ← shell.tree.resolve (shell.pathOf program)
  if shell.hasScript place then .ok place
  else .error (.ofNumber Failure.permissionDenied)

/- The path of a program on the search path. -/
def search
    (shell : Shell)
    (program : String) : Option Path :=
  if (shell.locate program).isOk then some (shell.pathOf program)
  else none

/-
  The program as the log shows it, without the name of the
  search directory in front.
-/
def shownProgram
    (shell : Shell)
    (program : String) : String :=
  let path := (shell.pathOf program).text.toList
  let start := shell.searchText.toList
  if start.isPrefixOf path then
    String.ofList ((path.drop start.length).dropWhile (· == '/'))
  else program

/- The behaviour of a program that has come to its end. -/
def lastBehaviour : Behaviour := {}

/- Takes the next behaviour of the program at a place. -/
def takeNext
    (place : FilePlace) :
    List Script → Behaviour × List Script
  | [] => (lastBehaviour, [])
  | script :: scripts =>
      if script.place = place then
        match script.next with
        | [] => (lastBehaviour, script :: scripts)
        | behaviour :: next =>
            (behaviour, { script with next := next } :: scripts)
      else
        let (behaviour, scripts) := takeNext place scripts
        (behaviour, script :: scripts)

/- The complaint about a word that no process can be given. -/
def zeroInWord : Failure :=
  .ofText "nul byte found in provided data"

/- Starts a command and says what it is going to do. -/
def start
    (shell : Shell)
    (command : Command) : Except Failure Behaviour × Shell :=
  if command.words.any fun word => word.toList.contains '\x00' then
    (.error zeroInWord, shell)
  else
    match shell.locate command.program with
    | .error failure => (.error failure, shell)
    | .ok place =>
        let (behaviour, scripts) := takeNext place shell.scripts
        (.ok behaviour,
          { shell with
            scripts := scripts
            log := shell.log ++
              [shell.shownProgram command.program ::
                command.arguments] })

/- The signal that ends a process whatever it does. -/
def killSignal : UInt32 := 9

/- How a behaviour ends, unless it never does. -/
def statusOf? : Ending → Option ExitStatus
  | .code code => some (.ofCode code)
  | .signal signal => some (.ofSignal signal)
  | .never => none

/- Runs a command; one that would never end is killed. -/
def run
    (shell : Shell)
    (command : Command) : Except Failure Output × Shell :=
  let (started, shell) := shell.start command
  (started.map fun behaviour =>
    ⟨(statusOf? behaviour.ending).getD (.ofSignal killSignal),
      behaviour.output⟩, shell)

/- Runs a command for some time. -/
def runWithin
    (shell : Shell)
    (command : Command) : Except Failure (Option Output) × Shell :=
  let (started, shell) := shell.start command
  (started.map fun behaviour =>
    (statusOf? behaviour.ending).map fun status =>
      ⟨status, behaviour.output⟩, shell)

------------------------------------------------------------
-- Answering
------------------------------------------------------------

/- Answers a request. -/
def answer :
    (request : Mount.Shell.Request) → Shell →
      Mount.Shell.Reply request × Shell
  | .search program, shell => (shell.search program, shell)
  | .run command, shell => shell.run command
  | .runWithin command _, shell => shell.runWithin command
  | .resolve path, shell =>
      ((shell.tree.canonical path).map Path.raw, shell)
  | .inspect path, shell =>
      ((shell.tree.resolve path).map shell.tree.fileSystemOf, shell)
  | .read path, shell => (shell.tree.read path, shell)
  | .usage path, shell =>
      ((shell.tree.resolve path).map fun _ =>
        ({} : Mount.Usage), shell)

end Shell

end Memory

end BlockVolumes
