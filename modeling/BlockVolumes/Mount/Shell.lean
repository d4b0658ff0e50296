import BlockVolumes.Files.RawPath
import BlockVolumes.Mount.Call
import BlockVolumes.Mount.ExitStatus
import BlockVolumes.Program

/-
  The system below a mounter: the programs that it starts and
  the files at which it looks.

  Key definitions include:
    * `Mount.Command`
    * `Mount.Command.ofPath`
    * `Mount.Output`
    * `Mount.Shell`
    * `Mount.consistentRead`
-/

namespace BlockVolumes

namespace Mount

open Files (Failure)

------------------------------------------------------------
-- Commands
------------------------------------------------------------

/-
  A program and its arguments. A program without a slash in
  its name is looked for on the search path.
-/
structure Command where
  program : String
  arguments : List String
  deriving DecidableEq, Repr

namespace Command

/-
  The command with the program at a path. A path that does
  not start at the root starts at the working directory.
-/
def ofPath
    (program : Path)
    (arguments : List String) : Command :=
  if program.isAbsolute then ⟨program.text, arguments⟩
  else ⟨"./" ++ program.text, arguments⟩

/- The words of a command. -/
def words
    (command : Command) : List String :=
  command.program :: command.arguments

end Command

/- How a command ended, and all that it wrote. -/
structure Output where
  status : ExitStatus
  bytes : List UInt8
  deriving DecidableEq, Repr

namespace Output

/- The end of a command in messages. -/
def describeEnd
    (output : Output) : String :=
  match output.status.code?, output.status.signal? with
  | some code, _ => toString code
  | none, some signal => "<signal " ++ toString signal ++ ">"
  | none, none => output.status.describe

/- A command that did not succeed has failed. -/
def check
    (command : Command)
    (output : Output) : Except Failure Unit :=
  if output.status.isSuccess then .ok ()
  else
    .error (.ofText
      ("command " ++ Text.quoteList command.words ++
        " exited with code " ++ output.describeEnd))

end Output

------------------------------------------------------------
-- The Interface
------------------------------------------------------------

namespace Shell

/-
  The requests of a mounter to the system. A command with a
  time limit is killed when it is still running at the end.
-/
inductive Request where
  | search (program : String)
  | run (command : Command)
  | runWithin (command : Command) (limit : Duration)
  | resolve (path : Path)
  | inspect (path : Path)
  | read (path : Path)
  | usage (path : Path)
  deriving DecidableEq, Repr

/-
  The replies. A search finds a path or nothing, an inspection
  gives what marks the filesystem of a path, a place is told in
  bytes, and a command has no output where it was killed.
-/
def Reply : Request → Type
  | .search _ => Option Path
  | .run _ => Except Failure Output
  | .runWithin _ _ => Except Failure (Option Output)
  | .resolve _ => Except Failure RawPath
  | .inspect _ => Except Failure (List String)
  | .read _ => Except Failure (List UInt8)
  | .usage _ => Except Failure Usage

end Shell

/- The system as the surroundings of a mounter. -/
def Shell : Interface :=
  ⟨Shell.Request, Shell.Reply⟩

namespace Shell

variable {α : Type}

/- Runs a command to its end. -/
def runToEnd
    (command : Command) : Program Shell Failure Output := do
  Program.ofExcept
    (← Program.perform (I := Shell) (Request.run command))

/- Runs a command that has to succeed. -/
def runSuccessfully
    (command : Command) : Program Shell Failure Unit := do
  let output ← runToEnd command
  Program.ofExcept (output.check command)

/- The bytes of a file. -/
def readFile
    (path : Path) : Program Shell Failure (List UInt8) := do
  Program.ofExcept
    (← Program.perform (I := Shell) (Request.read path))

end Shell

------------------------------------------------------------
-- Consistent Reading
------------------------------------------------------------

/-
  Reads a file until it has the same content as the time
  before, and no more often than the number of attempts left.
-/
def readUntilStable
    (path : Path)
    (attempts : Nat)
    (content : List UInt8) :
    Nat → Program Shell Failure (List UInt8)
  | 0 =>
      .failed (.ofText
        ("could not get consistent content of '" ++ path.text ++
          "' after " ++ toString attempts ++ " attempts"))
  | left + 1 => do
      let again ← Shell.readFile path
      if again = content then return again
      else readUntilStable path attempts again left

/-
  Reads a file that may change while it is read, until two
  reads agree.
-/
def consistentRead
    (path : Path)
    (attempts : Nat) :
    Program Shell Failure (List UInt8) := do
  let content ← Shell.readFile path
  readUntilStable path attempts content attempts

end Mount

end BlockVolumes
