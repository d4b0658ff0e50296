import BlockVolumes.Mount.Error
import BlockVolumes.Mount.ExitStatus
import BlockVolumes.Files.Path
import BlockVolumes.Text.Blank
import BlockVolumes.Text.Utf8

/-
  The tools that look at devices and resize filesystems: how
  they are called and what their output means.

  Key definitions include:
    * `Mount.readFormatReport`
    * `Mount.resizeCommand`
    * `Mount.resizeOutcome`
-/

namespace BlockVolumes

namespace Mount

------------------------------------------------------------
-- Format Reports
------------------------------------------------------------

/- A line as a key and a value, both without the sign between. -/
def splitAssignment
    (line : String) : Option (String × String) :=
  let cs := line.toList
  match cs.dropWhile (· != '=') with
  | [] => none
  | _ :: value =>
      some (String.ofList (cs.takeWhile (· != '=')),
        String.ofList value)

/- The value of a key on a line, unless it is empty. -/
def assigned?
    (key line : String) : Option String :=
  match splitAssignment (Text.trim line) with
  | some (k, value) =>
      if k = key && !value.isEmpty then some value else none
  | none => none

/- The value of a key on the last line that gives it one. -/
def lastAssigned?
    (key output : String) : Option String :=
  ((Text.lines output).filterMap (assigned? key)).getLast?

/- What stands for data that is no filesystem. -/
def partitionsText : String :=
  "unknown data, probably partitions"

/-
  The filesystem that a report on a device shows. A partition
  table is data as well and must not be formatted over.
-/
def readFormatReport
    (output : String) : Option String :=
  match lastAssigned? "TYPE" output with
  | some filesystem => some filesystem
  | none =>
      (lastAssigned? "PTTYPE" output).map fun _ => partitionsText

------------------------------------------------------------
-- Resizing
------------------------------------------------------------

/-
  The command that grows a filesystem: the extended
  filesystems grow through their device, another one through
  the place where it is mounted.
-/
def resizeCommand
    (filesystem : Option String)
    (device mountPath : Path) :
    Except Error (String × List String) :=
  let filesystem := (filesystem.filter (! ·.isEmpty)).getD "ext4"
  if filesystem ∈ ["ext2", "ext3", "ext4"] then
    .ok ("resize2fs", [device.text])
  else if filesystem = "xfs" then
    .ok ("xfs_growfs", ["-d", mountPath.text])
  else
    .error (.unsupported filesystem)

/-
  What came of the command: if it failed, what it had to say,
  or how it ended if it said nothing.
-/
def resizeOutcome
    (status : ExitStatus)
    (output : List UInt8) : Except String Unit :=
  if status.isSuccess then .ok ()
  else
    let text := Text.trim (Text.ofBytesLossy output)
    if text.isEmpty then
      .error ("resize exited with " ++ status.describe ++
        " and no output")
    else .error text

end Mount

end BlockVolumes
