import BlockVolumes.Files.Path
import BlockVolumes.Text.Quoted

/-
  Mount points: what is mounted where and how.

  Key definitions include:
    * `Mount.Point`
    * `Mount.Point.Matches`
    * `Mount.Point.describe`
-/

namespace BlockVolumes

namespace Mount

/-
  An entry of the mount table. The two numbers tell the tools
  of the system when to dump and to check the filesystem.
-/
structure Point where
  device : Path
  path : Path
  filesystem : String
  options : List String := []
  dumpInterval : Int := 0
  checkOrder : Int := 0
  deriving DecidableEq, Repr

namespace Point

/-
  The path under which the table shows a directory that has
  been deleted.
-/
def deletedPath
    (directory : Path) : Path :=
  ⟨directory.text ++ "\\040(deleted)"⟩

/-
  An entry is about a directory if it shows the path of the
  directory, deleted or not. Both paths are texts here, where
  this is what `Mount.Shows` says of places in bytes.
-/
def Matches
    (point : Point)
    (directory : Path) : Prop :=
  Path.Same point.path directory ∨
    Path.Same point.path (deletedPath directory)

instance
    (point : Point)
    (directory : Path) :
    Decidable (point.Matches directory) := by
  unfold Matches
  infer_instance

/- The entry in reports, with the number of its options only. -/
def describe
    (point : Point) : String :=
  "MountPoint \x7b device: " ++ Text.quote point.device.text ++
    ", path: " ++ Text.quote point.path.text ++
    ", type: " ++ Text.quote point.filesystem ++
    ", opts: \"length=" ++ toString point.options.length ++
    "\", freq: " ++ toString point.dumpInterval ++
    ", pass: " ++ toString point.checkOrder ++ " \x7d"

end Point

/- The first entry of a table at a path. -/
def pointAt?
    (table : List Point)
    (path : Path) : Option Point :=
  table.find? fun point => decide (Path.Same point.path path)

/- The number of entries of a table with a device. -/
def usesOf
    (table : List Point)
    (device : Path) : Nat :=
  table.countP fun point => decide (Path.Same point.device device)

end Mount

end BlockVolumes
