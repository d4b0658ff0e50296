import BlockVolumes.Document
import BlockVolumes.Mount.Call

/-
  Requests to a mounter and what comes of them as documents.

  Key definitions include:
    * `Mount.Error.ofDocument`
    * `Mount.Call.ofDocument?`
    * `Mount.Call.resultToDocument`
-/

namespace BlockVolumes

------------------------------------------------------------
-- Failures
------------------------------------------------------------

namespace Files

def FailureKind.named : String → FailureKind
  | "not_found" => notFound
  | "permission" => permissionDenied
  | _ => other

/- A failure by its number, or by its kind and its text. -/
def Failure.ofDocument
    (document : Document) : Failure :=
  match (document.field "os").toInteger? with
  | some number => .ofNumber (Document.narrow number)
  | none =>
      { kind := .named (document.textAt "kind")
        text := document.textAt "message" }

end Files

namespace Mount

/-
  An error with the failure behind it. The field that names a
  device says what was done with the device.
-/
def Error.ofDocument
    (document : Document) : Error :=
  let cause := Files.Failure.ofDocument document
  match document.text? "format", document.text? "disk_format",
      document.text? "resize", document.text? "unsupported" with
  | some device, _, _, _ => .format device cause
  | none, some device, _, _ => .diskFormat device cause
  | none, none, some device, _ => .resize device cause
  | none, none, none, some filesystem => .unsupported filesystem
  | none, none, none, none => .other cause

------------------------------------------------------------
-- Mount Points and Usage
------------------------------------------------------------

def Point.toDocument
    (point : Point) : Document :=
  .list
    [.text point.device.text, .text point.path.text,
      .text point.filesystem, .ofTexts point.options,
      .integer point.dumpInterval, .integer point.checkOrder]

/- A mount point without options from its first three parts. -/
def Point.ofDocument
    (document : Document) : Point :=
  { device := ⟨document.itemText 0⟩
    path := ⟨document.itemText 1⟩
    filesystem := document.itemText 2 }

def Usage.toDocument
    (usage : Usage) : Document :=
  .ofList .ofNatural
    [usage.totalBytes, usage.availableBytes, usage.usedBytes,
      usage.totalInodes, usage.freeInodes, usage.usedInodes]

def Usage.ofDocument
    (document : Document) : Usage :=
  { totalBytes := (document.item 0).toNatural
    availableBytes := (document.item 1).toNatural
    usedBytes := (document.item 2).toNatural
    totalInodes := (document.item 3).toNatural
    freeInodes := (document.item 4).toNatural
    usedInodes := (document.item 5).toNatural }

------------------------------------------------------------
-- Requests
------------------------------------------------------------

namespace Call

/- The mount that a document asks for. -/
def mountOf
    (document : Document)
    (sensitive : List String) : Call :=
  .mount ((document.text? "source").map Path.mk)
    ⟨document.textAt "target"⟩ (document.textAt "fs_type")
    (document.textsAt "options") sensitive

/- The request that a document names. -/
def ofDocument?
    (document : Document) : Option Call :=
  let path : Path := ⟨document.textAt "path"⟩
  match document.textAt "call" with
  | "mount" => some (mountOf document [])
  | "mount_sensitive" =>
      some (mountOf document (document.textsAt "sensitive"))
  | "unmount" =>
      some (.unmount ⟨document.textAt "target"⟩
        ((document.field? "force_after_ms").map fun limit =>
          .milliseconds limit.toNatural))
  | "list" => some .list
  | "is_likely_not_mount_point" =>
      some (.isLikelyNotMountPoint path)
  | "is_not_mount_point" => some (.isNotMountPoint path)
  | "is_mounted" => some (.isMounted path)
  | "path_exists" => some (.pathExists path)
  | "get_device_name_from_mount" => some (.deviceMountedAt path)
  | "get_disk_format" => some (.diskFormat path)
  | "is_formatted" => some (.isFormatted path)
  | "stats" => some (.usage path)
  | "format" =>
      some (.format path (document.textAt "fs_type")
        (document.textsAt "options"))
  | "resize" =>
      some (.resize (document.text? "fs_type")
        ⟨document.textAt "device"⟩ path)
  | "trigger_udev" => some .triggerDevices
  | _ => none

/- A device with the number of its mounts. -/
def deviceToDocument
    (found : Path × Nat) : Document :=
  .list [.text found.1.text, .ofNatural found.2]

/- What a request gives when it succeeds. -/
def resultToDocument :
    (call : Call) → call.Result → Document
  | mount _ _ _ _ _, _ => .null
  | unmount _ _, _ => .null
  | list, (table : List Point) => .ofList Point.toDocument table
  | isLikelyNotMountPoint _, (b : Bool) => .boolean b
  | isNotMountPoint _, (b : Bool) => .boolean b
  | isMounted _, (b : Bool) => .boolean b
  | deviceMountedAt _, (found : Option (Path × Nat)) =>
      .ofOption deviceToDocument found
  | format _ _ _, _ => .null
  | diskFormat _, (found : Option String) => .ofOption .text found
  | isFormatted _, (b : Bool) => .boolean b
  | resize _ _ _, _ => .null
  | pathExists _, (b : Bool) => .boolean b
  | triggerDevices, _ => .null
  | usage _, (u : Usage) => u.toDocument

end Call

end Mount

end BlockVolumes
