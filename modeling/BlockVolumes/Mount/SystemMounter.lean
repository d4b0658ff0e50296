import BlockVolumes.Mount.Checks
import BlockVolumes.Mount.CommandLine
import BlockVolumes.Mount.Options
import BlockVolumes.Mount.Shell
import BlockVolumes.Mount.Table
import BlockVolumes.Mount.Tools

/-
  The mounter that uses the tools and the files of the system.

  Key definitions include:
    * `Mount.SystemMounter`
    * `Mount.SystemMounter.create`
    * `Mount.SystemMounter.launch`
    * `Mount.SystemMounter.mountSteps`
    * `Mount.SystemMounter.serve`
-/

namespace BlockVolumes

namespace Mount

open Files (Failure)

/-
  A mounter: the program that mounts network filesystems, and
  whether mounts are made in a scope of their own.
-/
structure SystemMounter where
  networkMounter : Path
  usesScopes : Bool
  deriving DecidableEq, Repr

namespace SystemMounter

variable {α : Type}

/- A failure of the system in terms of a mounter. -/
def asError
    (program : Program Shell Failure α) :
    Program Shell Error α :=
  program.mapError Error.other

------------------------------------------------------------
-- Scopes
------------------------------------------------------------

/- The program that runs others in scopes. -/
def scopeProgram : String := "systemd-run"

/-
  Whether scopes work. The program that makes them may be
  there without being of use, so it is tried out.
-/
def detectScopes : Program Shell Error Bool := do
  match ← Program.perform (I := Shell)
      (Shell.Request.search scopeProgram) with
  | none => return false
  | some path =>
      let output ←
        asError (Shell.runToEnd
          (.ofPath path
            ["--description=Block disk CSI systemd probe",
              "--scope", "true"]))
      return output.status.isSuccess

/- A mounter for the system as it is. -/
def create
    (networkMounter : Path) : Program Shell Error SystemMounter := do
  return ⟨networkMounter, ← detectScopes⟩

------------------------------------------------------------
-- Mounting
------------------------------------------------------------

/- A program to be started, with its line. -/
structure Launch where
  program : Path
  line : CommandLine
  deriving DecidableEq, Repr

/- The command of a launch. -/
def Launch.command
    (launch : Launch) : Command :=
  .ofPath launch.program launch.line.arguments

/- One step of a mount: the options with which it is made. -/
structure Step where
  replacement : Option Path
  options : List String
  sensitive : List String
  deriving DecidableEq, Repr

/- The program that mounts. -/
def mountProgram : Path := ⟨"mount"⟩

/-
  The launch of a step. The program that replaces the usual
  one gets its own path as the first argument.
-/
def launch
    (system : SystemMounter)
    (source : Option Path)
    (target : Path)
    (filesystem : String)
    (step : Step) : Launch :=
  let line :=
    CommandLine.ofMount source target filesystem step.options
      step.sensitive
  let (program, line) :=
    match step.replacement with
    | none => (mountProgram, line)
    | some path => (path, line.after path.text)
  if system.usesScopes then
    ⟨⟨scopeProgram⟩, .inScope target program.text line⟩
  else
    ⟨program, line⟩

/- The filesystems that have a mounter of their own. -/
def networkFilesystems : List String :=
  ["nfs", "glusterfs", "ceph", "cifs"]

/-
  The steps of a mount. A bind mount takes two, as its options
  count only in a remount.
-/
def mountSteps
    (system : SystemMounter)
    (filesystem : String)
    (options sensitive : List String) : List Step :=
  let bind := BindOptions.ofLists options sensitive
  if bind.wanted then
    [⟨none, bind.first, bind.remountSensitive⟩,
      ⟨none, bind.remount, bind.remountSensitive⟩]
  else if filesystem ∈ networkFilesystems then
    [⟨some system.networkMounter, options, sensitive⟩]
  else
    [⟨none, options, sensitive⟩]

/- Runs one step after the other until one fails. -/
def runSteps
    (system : SystemMounter)
    (source : Option Path)
    (target : Path)
    (filesystem : String) :
    List Step → Program Shell Failure Unit
  | [] => return ()
  | step :: steps => do
      Shell.runSuccessfully
        (system.launch source target filesystem step).command
      runSteps system source target filesystem steps

/- Mounts a source at a target. -/
def mount
    (system : SystemMounter)
    (source : Option Path)
    (target : Path)
    (filesystem : String)
    (options sensitive : List String) :
    Program Shell Error Unit :=
  asError
    (system.runSteps source target filesystem
      (system.mountSteps filesystem options sensitive))

/- The command that ends a mount. -/
def unmountCommand
    (arguments : List String) : Command :=
  ⟨"umount", arguments⟩

/-
  Ends the mount at a target, by force if that takes longer
  than the given time.
-/
def unmount
    (target : Path)
    (forceAfter : Option Duration) :
    Program Shell Error Unit :=
  asError do
    let command := unmountCommand [target.text]
    match forceAfter with
    | none => Shell.runSuccessfully command
    | some limit =>
        let finished ←
          Program.ofExcept
            (← Program.perform (I := Shell)
              (Shell.Request.runWithin command limit))
        match finished with
        | some output => Program.ofExcept (output.check command)
        | none =>
            Shell.runSuccessfully
              (unmountCommand ["-f", target.text])

------------------------------------------------------------
-- Devices
------------------------------------------------------------

/- The filesystem that is made when none is named. -/
def orExt4
    (filesystem : String) : String :=
  if filesystem.isEmpty then "ext4" else filesystem

/- The arguments with which a filesystem is made unasked. -/
def formatArguments
    (filesystem : String) : List String :=
  if filesystem ∈ ["ext2", "ext3", "ext4"] then ["-F", "-m0"]
  else if filesystem = "xfs" then ["-f"]
  else []

/- Makes a filesystem on a device. -/
def format
    (device : Path)
    (filesystem : String)
    (options : List String) :
    Program Shell Error Unit :=
  (do
    let filesystem := orExt4 filesystem
    let output ←
      Shell.runToEnd
        ⟨"mkfs." ++ filesystem,
          formatArguments filesystem ++ options ++ [device.text]⟩
    if output.status.isSuccess then return ()
    else
      throw (Failure.ofText (Text.ofBytesLossy output.bytes))
    : Program Shell Failure Unit).mapError
      (Error.format device.text)

/- The code that reports nothing worth mentioning on a device. -/
def nothingFound : Nat := 2

/- The filesystem that a device holds, if it holds data at all. -/
def diskFormat
    (device : Path) :
    Program Shell Error (Option String) :=
  (do
    let output ←
      Shell.runToEnd
        ⟨"blkid",
          ["-p", "-s", "TYPE", "-s", "PTTYPE", "-o", "export",
            device.text]⟩
    let text := Text.ofBytesLossy output.bytes
    if output.status.code? = some nothingFound then
      return none
    else if output.status.isSuccess then
      return readFormatReport text
    else
      throw (Failure.ofText text)
    : Program Shell Failure (Option String)).mapError
      (Error.diskFormat device.text)

/- Makes the filesystem on a device as large as the device. -/
def resize
    (filesystem : Option String)
    (device mountPath : Path) :
    Program Shell Error Unit := do
  let (program, arguments) ←
    Program.ofExcept (resizeCommand filesystem device mountPath)
  (do
    let output ← Shell.runToEnd ⟨program, arguments⟩
    match resizeOutcome output.status output.bytes with
    | .ok () => return ()
    | .error text => throw (Failure.ofText text)
    : Program Shell Failure Unit).mapError
      (Error.resize device.text)

/- Has the events of all devices repeated. -/
def triggerDevices : Program Shell Error Unit :=
  asError (Shell.runSuccessfully ⟨"udevadm", ["trigger"]⟩)

------------------------------------------------------------
-- Looking
------------------------------------------------------------

/- The file that shows the mount table. -/
def tablePath : Path := ⟨"/proc/mounts"⟩

/- How often a table that changes is read again. -/
def tableAttempts : Nat := 3

/- The mount table in a file. -/
def listFrom
    (path : Path) : Program Shell Error (List Point) := do
  let content ← asError (consistentRead path tableAttempts)
  Program.ofExcept (readTable content)

def list : Program Shell Error (List Point) :=
  listFrom tablePath

/- What marks the filesystem to which a path leads. -/
def inspect
    (path : Path) : Program Shell Error (List String) := do
  Program.ofExcept
    (fromSystem
      (← Program.perform (I := Shell) (Shell.Request.inspect path)))

/- The place to which a path leads. -/
def resolve
    (path : Path) : Program Shell Error (Option RawPath) := do
  let place ←
    Program.perform (I := Shell) (Shell.Request.resolve path)
  return (match place with
    | .ok place => some place
    | .error _ => none)

/-
  A path whose filesystem is not that of the directory above
  is a mount point.
-/
def isLikelyNotMountPoint
    (path : Path) : Program Shell Error Bool := do
  let own ← inspect path
  match path.parent? with
  | none => throw (.ofText "file does not have parent")
  | some parent =>
      let above ← inspect parent
      return own == above

/-
  Whether a path is no mount point. The path is resolved only
  where the quick check leaves the question open, and the table
  is read only where the path leads to a place.
-/
def isNotMountPoint
    (path : Path) : Program Shell Error Bool := do
  let quick ← (isLikelyNotMountPoint path).attempt
  if leavesOpen quick then
    match ← resolve path with
    | none => return true
    | some place => return isFree place (placesOf (← list))
  else
    Program.ofExcept quick

/- Whether something is mounted at a path. -/
def isMounted
    (path : Path) : Program Shell Error Bool := do
  let answer ← (isNotMountPoint path).attempt
  Program.ofExcept (Mount.isMounted answer)

/- Whether a path leads anywhere. -/
def pathExists
    (path : Path) : Program Shell Error Bool := do
  let found ← (inspect path).attempt
  match found with
  | .ok _ => return true
  | .error error =>
      if error.isNotFound then return false else throw error

/- How full the filesystem at a path is. -/
def usage
    (path : Path) : Program Shell Error Usage := do
  if path.text.toList.contains '\x00' then
    throw (.ofText ("path contains a nul byte: " ++ path.text))
  else
    Program.ofExcept
      (fromSystem
        (← Program.perform (I := Shell)
          (Shell.Request.usage path)))

------------------------------------------------------------
-- Serving
------------------------------------------------------------

/- Answers the requests of a mounter. -/
def serve
    (system : SystemMounter) :
    (call : Call) → Program Shell Error call.Result
  | .mount source target filesystem options sensitive =>
      system.mount source target filesystem options sensitive
  | .unmount target forceAfter => unmount target forceAfter
  | .list => list
  | .isLikelyNotMountPoint path => isLikelyNotMountPoint path
  | .isNotMountPoint path => isNotMountPoint path
  | .isMounted path => isMounted path
  | .deviceMountedAt path => do
      let table ← list
      let place ← resolve path
      return Mount.deviceMountedAt table (place.getD path.raw)
  | .format device filesystem options =>
      format device filesystem options
  | .diskFormat device => diskFormat device
  | .isFormatted device => do
      return (← diskFormat device).isSome
  | .resize filesystem device mountPath =>
      resize filesystem device mountPath
  | .pathExists path => pathExists path
  | .triggerDevices => triggerDevices
  | .usage path => usage path

end SystemMounter

end Mount

end BlockVolumes
