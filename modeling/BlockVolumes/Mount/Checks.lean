import BlockVolumes.Files.RawPath
import BlockVolumes.Mount.Error
import BlockVolumes.Mount.Point

/-
  Whether something is mounted at a path, judged from a quick
  check that misses some kinds of mounts, from the place to
  which the path leads, and from the mount table. Places are
  told apart by their bytes.

  Key definitions include:
    * `Mount.deletedPlace`
    * `Mount.Shows`
    * `Mount.leavesOpen`
    * `Mount.isNotMountPoint`
    * `Mount.isMounted`
    * `Mount.deviceMountedAt`
-/

namespace BlockVolumes

namespace Mount

------------------------------------------------------------
-- Places in a Table
------------------------------------------------------------

/-
  The path under which the table shows a directory that has
  been deleted: the text that stands for the directory in
  messages, with a mark at its end.
-/
def deletedPlace
    (directory : RawPath) : RawPath :=
  .ofText (directory.shown ++ "\\040(deleted)")

/-
  Whether the path of an entry is that of a directory, deleted
  or not.
-/
def Shows
    (path directory : RawPath) : Prop :=
  RawPath.Same path directory ∨
    RawPath.Same path (deletedPlace directory)

instance
    (path directory : RawPath) :
    Decidable (Shows path directory) := by
  unfold Shows
  infer_instance

/- The paths of the entries of a table. -/
def placesOf
    (table : List Point) : List RawPath :=
  table.map fun point => point.path.raw

/- Whether none of some paths of entries is that of a directory. -/
def isFree
    (directory : RawPath)
    (paths : List RawPath) : Bool :=
  !(paths.any fun path => decide (Shows path directory))

------------------------------------------------------------
-- Judgements
------------------------------------------------------------

/- The judgement by the table for the place of a path. -/
def isAbsentFrom
    (resolved : Option RawPath)
    (table : Except Error (List RawPath)) : Except Error Bool :=
  match resolved with
  | none => .ok true
  | some place => table.map (isFree place)

/-
  Whether a quick check leaves it to the table: it has found no
  mount point, or was not permitted to look.
-/
def leavesOpen : Except Error Bool → Bool
  | .ok notMounted => notMounted
  | .error error => error.isPermission

/-
  Whether a path is no mount point. The quick check is right
  when it finds one; where it finds none or may not look, the
  table decides, in which a path without a place is not found.
-/
def isNotMountPoint
    (quick : Except Error Bool)
    (resolved : Option RawPath)
    (table : Except Error (List RawPath)) : Except Error Bool :=
  if leavesOpen quick then isAbsentFrom resolved table else quick

/-
  Whether something is mounted at a path. Nothing is where
  there is no such path.
-/
def isMounted
    (notMountPoint : Except Error Bool) : Except Error Bool :=
  match notMountPoint with
  | .ok notMounted => .ok !notMounted
  | .error error =>
      if error.isNotFound then .ok false else .error error

/-
  The device of the first entry of the table at a place, and
  the number of entries with that device.
-/
def deviceMountedAt
    (table : List Point)
    (place : RawPath) : Option (Path × Nat) :=
  (table.find? fun point =>
    decide (RawPath.Same point.path.raw place)).map fun point =>
      (point.device, usesOf table point.device)

end Mount

end BlockVolumes
