import BlockVolumes.Capacity
import BlockVolumes.Csi.Field
import BlockVolumes.Dictionary
import BlockVolumes.Text.Quoted

/-
  What requests and answers say about volumes: wanted sizes,
  sources of content, wanted places, the volume itself, its
  condition and its usage.

  Key definitions include:
    * `Csi.RangeMessage`
    * `Csi.readRange`
    * `Csi.ContentSource`
    * `Csi.TopologyRequirement`
    * `Csi.Volume`
    * `Csi.VolumeState`
    * `Csi.Usage`
-/

namespace BlockVolumes

namespace Csi

open Rpc (Status)

------------------------------------------------------------
-- Size Ranges
------------------------------------------------------------

/- A range of sizes as messages carry it; zero means unset. -/
structure RangeMessage where
  required : Int := 0
  limit : Int := 0
  deriving DecidableEq, Repr

/- Reads a range that has to set a bound. -/
def readRange
    (message : RangeMessage) : Except Status Capacity.Range :=
  if message.required < 0 then
    .error (.invalidArgument
      "CapacityRange.required_bytes cannot be negative")
  else if message.limit < 0 then
    .error (.invalidArgument
      "CapacityRange.limit_bytes cannot be negative")
  else
    match Capacity.Range.ofBounds (nonzero message.required.toNat)
        (nonzero message.limit.toNat) with
    | some range => .ok range
    | none =>
        .error (.invalidArgument
          "CapacityRange must set required_bytes or limit_bytes")

/- Reads a range that may set no bound, which is no range. -/
def readOptionalRange :
    Option RangeMessage → Except Status (Option Capacity.Range)
  | none => .ok none
  | some message =>
      if message.required = 0 ∧ message.limit = 0 then .ok none
      else (readRange message).map some

------------------------------------------------------------
-- Content Sources
------------------------------------------------------------

/- Where the content of a new volume comes from. -/
inductive ContentSource where
  | snapshot (id : String)
  | volume (id : String)
  deriving DecidableEq, Repr

namespace ContentSource

/- Reads a source, which has to name what it is. -/
def ofMessage :
    Option ContentSource → Except Status (Option ContentSource)
  | none => .ok none
  | some (snapshot id) => do
      let id ←
        required id "VolumeContentSource snapshot_id cannot be empty"
      return some (snapshot id)
  | some (volume id) => do
      let id ←
        required id "VolumeContentSource volume_id cannot be empty"
      return some (volume id)

/- The source in reports. -/
def describe : ContentSource → String
  | snapshot id => "Snapshot(" ++ Text.quote id ++ ")"
  | volume id => "Volume(" ++ Text.quote id ++ ")"

end ContentSource

------------------------------------------------------------
-- Places
------------------------------------------------------------

/-
  The places from which a volume has to be reachable, and
  those that are preferred, best first.
-/
structure TopologyRequirement where
  requisite : List Dictionary := []
  preferred : List Dictionary := []
  deriving DecidableEq, Repr

------------------------------------------------------------
-- Volumes
------------------------------------------------------------

/- A volume in answers. -/
structure Volume where
  id : String
  capacity : Option Nat
  context : Dictionary := []
  source : Option ContentSource := none
  topology : List Dictionary := []
  deriving DecidableEq, Repr

/- A volume as messages carry it; no capacity is zero. -/
structure VolumeMessage where
  id : String
  capacityBytes : Int
  context : Dictionary
  source : Option ContentSource
  topology : List Dictionary
  deriving DecidableEq, Repr

/- Writes a volume. -/
def Volume.toMessage
    (volume : Volume) : VolumeMessage :=
  { id := volume.id
    capacityBytes :=
      match volume.capacity with
      | none => 0
      | some bytes => signed64 bytes
    context := volume.context
    source := volume.source
    topology := volume.topology }

------------------------------------------------------------
-- Conditions
------------------------------------------------------------

/- Whether a volume is in order, and what there is to say. -/
structure Condition where
  abnormal : Bool
  message : String
  deriving DecidableEq, Repr

namespace Condition

def normal
    (message : String) : Condition :=
  ⟨false, message⟩

def broken
    (message : String) : Condition :=
  ⟨true, message⟩

end Condition

/- The nodes that use a volume, and its condition if known. -/
structure VolumeState where
  nodes : List String := []
  condition : Option Condition := none
  deriving DecidableEq, Repr

------------------------------------------------------------
-- Usage
------------------------------------------------------------

/- What is counted. -/
inductive UsageUnit where
  | bytes
  | inodes
  deriving DecidableEq, Repr

namespace UsageUnit

/- The number of a unit in messages. -/
def number : UsageUnit → Int
  | bytes => 1
  | inodes => 2

/- The name of a unit in reports. -/
def name : UsageUnit → String
  | bytes => "Bytes"
  | inodes => "Inodes"

end UsageUnit

/- How much of something there is. -/
structure Usage where
  unit : UsageUnit
  total : Nat
  available : Nat
  used : Nat
  deriving DecidableEq, Repr

/- A usage as messages carry it. -/
structure UsageMessage where
  unit : Int
  total : Int
  available : Int
  used : Int
  deriving DecidableEq, Repr

/- Writes a usage. -/
def Usage.toMessage
    (usage : Usage) : UsageMessage :=
  { unit := usage.unit.number
    total := signed64 usage.total
    available := signed64 usage.available
    used := signed64 usage.used }

end Csi

end BlockVolumes
