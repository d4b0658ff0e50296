import BlockVolumes.Mount.Error
import BlockVolumes.Mount.Point
import BlockVolumes.Time.Duration

/-
  What a mounter can be asked to do, and what it answers.

  Key definitions include:
    * `Mount.Usage`
    * `Mount.Call`
    * `Mount.Call.Reply`
-/

namespace BlockVolumes

namespace Mount

/- How full a filesystem is, in bytes and in inodes. -/
structure Usage where
  totalBytes : Nat := 0
  availableBytes : Nat := 0
  usedBytes : Nat := 0
  totalInodes : Nat := 0
  freeInodes : Nat := 0
  usedInodes : Nat := 0
  deriving DecidableEq, Repr

/-
  The requests of a mounter. Sensitive options are kept apart
  from the others, and an unmount may be forced after a while.
-/
inductive Call where
  | mount
      (source : Option Path)
      (target : Path)
      (filesystem : String)
      (options sensitive : List String)
  | unmount (target : Path) (forceAfter : Option Duration)
  | list
  | isLikelyNotMountPoint (path : Path)
  | isNotMountPoint (path : Path)
  | isMounted (path : Path)
  | deviceMountedAt (path : Path)
  | format
      (device : Path)
      (filesystem : String)
      (options : List String)
  | diskFormat (device : Path)
  | isFormatted (device : Path)
  | resize
      (filesystem : Option String)
      (device mountPath : Path)
  | pathExists (path : Path)
  | triggerDevices
  | usage (path : Path)
  deriving DecidableEq, Repr

namespace Call

/-
  What a request is answered with when it succeeds. A device
  comes with the number of places where it is mounted.
-/
abbrev Result : Call → Type
  | mount _ _ _ _ _ => Unit
  | unmount _ _ => Unit
  | list => List Point
  | isLikelyNotMountPoint _ => Bool
  | isNotMountPoint _ => Bool
  | isMounted _ => Bool
  | deviceMountedAt _ => Option (Path × Nat)
  | format _ _ _ => Unit
  | diskFormat _ => Option String
  | isFormatted _ => Bool
  | resize _ _ _ => Unit
  | pathExists _ => Bool
  | triggerDevices => Unit
  | usage _ => Usage

/- The answer to a request. -/
abbrev Reply
    (call : Call) : Type :=
  Except Error call.Result

/- The name of a request. -/
def name : Call → String
  | mount _ _ _ _ _ => "mount"
  | unmount _ _ => "unmount"
  | list => "list"
  | isLikelyNotMountPoint _ => "is_likely_not_mount_point"
  | isNotMountPoint _ => "is_not_mount_point"
  | isMounted _ => "is_mounted"
  | deviceMountedAt _ => "get_device_name_from_mount"
  | format _ _ _ => "format"
  | diskFormat _ => "get_disk_format"
  | isFormatted _ => "is_formatted"
  | resize _ _ _ => "resize"
  | pathExists _ => "path_exists"
  | triggerDevices => "trigger_udev"
  | usage _ => "stats"

end Call

end Mount

end BlockVolumes
