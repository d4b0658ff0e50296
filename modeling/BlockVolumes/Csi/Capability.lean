import BlockVolumes.Rpc.Status
import BlockVolumes.Text.Quoted

/-
  How a volume is going to be used: the access mode and, for
  volumes with a filesystem, its type and mount flags.

  Key definitions include:
    * `Csi.AccessMode`
    * `Csi.MountSpec`
    * `Csi.Capability`
    * `Csi.Capability.ofMessage`
    * `Csi.Capability.toMessage`
    * `Csi.Capability.describe`
-/

namespace BlockVolumes

namespace Csi

open Rpc (Status)

------------------------------------------------------------
-- Access Modes
------------------------------------------------------------

/- How many nodes may use a volume at a time, and for what. -/
inductive AccessMode where
  | unknown
  | singleNodeWriter
  | singleNodeReaderOnly
  | multiNodeReaderOnly
  | multiNodeSingleWriter
  | multiNodeMultiWriter
  deriving DecidableEq, Repr

namespace AccessMode

/- The number of a mode in messages. -/
def number : AccessMode → Int
  | unknown => 0
  | singleNodeWriter => 1
  | singleNodeReaderOnly => 2
  | multiNodeReaderOnly => 3
  | multiNodeSingleWriter => 4
  | multiNodeMultiWriter => 5

/- The mode of a number; any other number is unknown. -/
def ofNumber : Int → AccessMode
  | 1 => singleNodeWriter
  | 2 => singleNodeReaderOnly
  | 3 => multiNodeReaderOnly
  | 4 => multiNodeSingleWriter
  | 5 => multiNodeMultiWriter
  | _ => unknown

theorem ofNumber_number
    (mode : AccessMode) :
    ofNumber mode.number = mode := by
  cases mode <;> rfl

/- The name of a mode in reports. -/
def name : AccessMode → String
  | unknown => "Unknown"
  | singleNodeWriter => "SingleNodeWriter"
  | singleNodeReaderOnly => "SingleNodeReaderOnly"
  | multiNodeReaderOnly => "MultiNodeReaderOnly"
  | multiNodeSingleWriter => "MultiNodeSingleWriter"
  | multiNodeMultiWriter => "MultiNodeMultiWriter"

end AccessMode

------------------------------------------------------------
-- Access Types
------------------------------------------------------------

/-
  How a filesystem is mounted. The flags may hold secrets.
-/
structure MountSpec where
  filesystem : Option String
  flags : List String
  deriving DecidableEq, Repr

namespace MountSpec

/- An empty filesystem type is the same as none. -/
def new
    (filesystem : Option String)
    (flags : List String) : MountSpec :=
  ⟨filesystem.filter (! ·.isEmpty), flags⟩

/- The specification in reports, which hides the flags. -/
def describe
    (spec : MountSpec) : String :=
  "MountVolume \x7b fs_type: " ++
    Text.quoteOption spec.filesystem ++
    ", mount_flags: \"REDACTED (" ++
    toString spec.flags.length ++ " items)\" \x7d"

end MountSpec

/- Whether a volume is used as a device or as a filesystem. -/
inductive AccessType where
  | block
  | mount (spec : MountSpec)
  deriving DecidableEq, Repr

namespace AccessType

def mount? : AccessType → Option MountSpec
  | block => none
  | mount spec => some spec

/- The access type in reports. -/
def describe : AccessType → String
  | block => "Block"
  | mount spec => "Mount(" ++ spec.describe ++ ")"

end AccessType

------------------------------------------------------------
-- Capabilities
------------------------------------------------------------

/- A way in which a volume is going to be used. -/
structure Capability where
  mode : AccessMode
  access : AccessType
  deriving DecidableEq, Repr

/- The access type of a message. -/
inductive AccessMessage where
  | block
  | mount (filesystem : String) (flags : List String)
  deriving DecidableEq, Repr

/- A capability as messages carry it. -/
structure CapabilityMessage where
  mode : Option Int := none
  access : Option AccessMessage := none
  deriving DecidableEq, Repr

namespace Capability

/- Reads a capability; both of its parts have to be there. -/
def ofMessage
    (message : CapabilityMessage) : Except Status Capability :=
  match message.mode, message.access with
  | none, _ =>
      .error (.invalidArgument
        "Missing access_mode for VolumeCapability")
  | some _, none =>
      .error (.invalidArgument
        "Missing access_type for VolumeCapability")
  | some mode, some .block =>
      .ok ⟨.ofNumber mode, .block⟩
  | some mode, some (.mount filesystem flags) =>
      .ok ⟨.ofNumber mode,
        .mount (.new (some filesystem) flags)⟩

/- Reads the capabilities of a list until one is wrong. -/
def ofMessages
    (messages : List CapabilityMessage) :
    Except Status (List Capability) :=
  messages.mapM ofMessage

/- Writes a capability. -/
def toMessage
    (capability : Capability) : CapabilityMessage :=
  { mode := some capability.mode.number
    access :=
      match capability.access with
      | .block => some .block
      | .mount spec =>
          some (.mount (spec.filesystem.getD "") spec.flags) }

/- The capability in reports, without its mount flags. -/
def describe
    (capability : Capability) : String :=
  "VolumeCapability \x7b access_mode: " ++ capability.mode.name ++
    ", access_type: " ++ capability.access.describe ++ " \x7d"

/-
  Accepts the only supported use: a filesystem that a single
  node writes.
-/
def check
    (capability : Capability) : Except Status Unit :=
  match capability.access with
  | .block =>
      .error ⟨.unimplemented,
        "Raw block volumes are not supported"⟩
  | .mount _ =>
      if capability.mode = .singleNodeWriter then .ok ()
      else
        .error (.invalidArgument
          ("Access mode " ++ capability.mode.name ++
            " is not supported, only SingleNodeWriter is"))

end Capability

end Csi

end BlockVolumes
