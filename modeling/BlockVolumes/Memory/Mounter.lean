import BlockVolumes.Files.Tree
import BlockVolumes.Mount.Call
import BlockVolumes.Mount.Checks

/-
  A mounter that keeps its mount table and the formats of its
  devices in memory and records what it is asked to change.

  Key definitions include:
    * `Memory.Action`
    * `Memory.Mounter`
    * `Memory.Mounter.hasPath`
    * `Memory.Mounter.mount`
    * `Memory.Mounter.answer`
-/

namespace BlockVolumes

namespace Memory

open Mount (Point Error)

------------------------------------------------------------
-- Actions and State
------------------------------------------------------------

/- What was changed, in the order in which it happened. -/
inductive Action where
  | mounted
      (source target : Path)
      (filesystem : String)
      (options : List String)
  | unmounted (target : Path)
  | formatted (device : Path) (filesystem : String)
  | resized
      (filesystem : Option String)
      (device mountPath : Path)
  | triggered
  deriving DecidableEq, Repr

/-
  The state of a mounter. Some paths are there beside those of
  the tree, and late ones appear with the next trigger.
-/
structure Mounter where
  table : List Point := []
  paths : List Path := []
  latePaths : List Path := []
  formats : List (Path × String) := []
  usage : Mount.Usage := {}
  log : List Action := []
  deriving DecidableEq, Repr

namespace Mounter

------------------------------------------------------------
-- Looking
------------------------------------------------------------

/- Whether a path is there for the mounter. -/
def hasPath
    (mounter : Mounter)
    (tree : FileTree)
    (path : Path) : Bool :=
  path.isIn mounter.paths ||
    (Mount.pointAt? mounter.table path).isSome ||
    tree.leadsSomewhere path

/- The error for a path that is not there. -/
def missing
    (path : Path) : Error :=
  .other ⟨.notFound, path.text ++ " does not exist"⟩

/-
  Whether the table has no entry at the place of a path. The
  path has to be there.
-/
def isLikelyNotMountPoint
    (mounter : Mounter)
    (tree : FileTree)
    (path : Path) : Except Error Bool :=
  if mounter.hasPath tree path then
    .ok (Mount.pointAt? mounter.table
      (tree.canonicalOrSelf path)).isNone
  else
    .error (missing path)

/- The place to which a path leads. -/
def place?
    (tree : FileTree)
    (path : Path) : Option Path :=
  (tree.canonical path).toOption

/- Whether a path is no mount point. -/
def isNotMountPoint
    (mounter : Mounter)
    (tree : FileTree)
    (path : Path) : Except Error Bool :=
  Mount.isNotMountPoint
    (mounter.isLikelyNotMountPoint tree path)
    ((place? tree path).map Path.raw)
    (.ok (Mount.placesOf mounter.table))

/- Whether something is mounted at a path. -/
def isMounted
    (mounter : Mounter)
    (tree : FileTree)
    (path : Path) : Except Error Bool :=
  Mount.isMounted (mounter.isNotMountPoint tree path)

/- The recorded format of a device. -/
def format?
    (mounter : Mounter)
    (device : Path) : Option String :=
  (mounter.formats.find? fun row =>
    decide (Path.Same row.1 device)).map (·.2)

------------------------------------------------------------
-- Changing
------------------------------------------------------------

/- Records an action. -/
def record
    (mounter : Mounter)
    (action : Action) : Mounter :=
  { mounter with log := mounter.log ++ [action] }

/-
  The device behind the source of a mount. A bind mount takes
  the device that is mounted at its source, if there is one.
-/
def sourceDevice
    (mounter : Mounter)
    (tree : FileTree)
    (source : Path)
    (options : List String) : Path :=
  if "bind" ∈ options then
    match Mount.pointAt? mounter.table
        (tree.canonicalOrSelf source) with
    | some point => point.device
    | none => source
  else source

/- Mounts a source at a target. -/
def mount
    (mounter : Mounter)
    (tree : FileTree)
    (source : Option Path)
    (target : Path)
    (filesystem : String)
    (options sensitive : List String) :
    Except Error Unit × Mounter :=
  match source with
  | none =>
      (.error (.ofText "missing required source in fake mounter"),
        mounter)
  | some source =>
      let device := mounter.sourceDevice tree source options
      let place := tree.canonicalOrSelf target
      let point : Point :=
        { device := device
          path := place
          filesystem := filesystem
          options := options ++ sensitive }
      let mounter :=
        { mounter with table := mounter.table ++ [point] }
      (.ok (),
        mounter.record
          (.mounted device place filesystem options))

/- A table without its first entry at a path. -/
def withoutPoint
    (table : List Point)
    (path : Path) : List Point :=
  table.eraseP fun point => decide (Path.Same point.path path)

/- Ends the mount at a target, if there is one. -/
def unmount
    (mounter : Mounter)
    (tree : FileTree)
    (target : Path) : Mounter :=
  let place := tree.canonicalOrSelf target
  let mounter :=
    { mounter with table := withoutPoint mounter.table place }
  mounter.record (.unmounted place)

/- The formats with that of one device changed. -/
def setFormat
    (formats : List (Path × String))
    (device : Path)
    (filesystem : String) : List (Path × String) :=
  formats.filter (fun row => !decide (Path.Same row.1 device)) ++
    [(device, filesystem)]

/- Makes a filesystem on a device. -/
def format
    (mounter : Mounter)
    (device : Path)
    (filesystem : String) : Mounter :=
  let filesystem :=
    if filesystem.isEmpty then "ext4" else filesystem
  let mounter :=
    { mounter with
      formats := setFormat mounter.formats device filesystem }
  mounter.record (.formatted device filesystem)

/- The filesystems that can grow; the empty name is a default. -/
def growing : List String :=
  ["", "ext2", "ext3", "ext4", "xfs"]

/- Makes a filesystem as large as its device. -/
def resize
    (mounter : Mounter)
    (filesystem : Option String)
    (device mountPath : Path) : Except Error Unit × Mounter :=
  let kind := filesystem.getD "ext4"
  if kind ∈ growing then
    (.ok (),
      mounter.record (.resized filesystem device mountPath))
  else
    (.error (.unsupported kind), mounter)

/- Lets the late paths appear. -/
def trigger
    (mounter : Mounter) : Mounter :=
  let mounter :=
    { mounter with
      paths := mounter.paths ++ mounter.latePaths
      latePaths := [] }
  mounter.record .triggered

------------------------------------------------------------
-- Answering
------------------------------------------------------------

/- Answers a request, in view of the tree of files. -/
def answer
    (mounter : Mounter)
    (tree : FileTree) :
    (call : Mount.Call) → call.Reply × Mounter
  | .mount source target filesystem options sensitive =>
      mounter.mount tree source target filesystem options sensitive
  | .unmount target _ => (.ok (), mounter.unmount tree target)
  | .list => (.ok mounter.table, mounter)
  | .isLikelyNotMountPoint path =>
      (mounter.isLikelyNotMountPoint tree path, mounter)
  | .isNotMountPoint path =>
      (mounter.isNotMountPoint tree path, mounter)
  | .isMounted path => (mounter.isMounted tree path, mounter)
  | .deviceMountedAt path =>
      (.ok (Mount.deviceMountedAt mounter.table
        (tree.canonicalOrSelf path).raw), mounter)
  | .format device filesystem _ =>
      (.ok (), mounter.format device filesystem)
  | .diskFormat device => (.ok (mounter.format? device), mounter)
  | .isFormatted device =>
      (.ok (mounter.format? device).isSome, mounter)
  | .resize filesystem device mountPath =>
      mounter.resize filesystem device mountPath
  | .pathExists path => (.ok (mounter.hasPath tree path), mounter)
  | .triggerDevices => (.ok (), mounter.trigger)
  | .usage path =>
      if mounter.hasPath tree path then (.ok mounter.usage, mounter)
      else (.error (missing path), mounter)

end Mounter

end Memory

end BlockVolumes
