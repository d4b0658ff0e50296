import BlockVolumes.Csi.Volume

/-
  Requests for what a node knows: the usage of a volume, and
  the node itself.

  Key definitions include:
    * `Csi.VolumeStats.Request.ofMessage`
    * `Csi.VolumeStats.Report`
    * `Csi.NodeInfo`
-/

namespace BlockVolumes

namespace Csi

open Rpc (Status)

------------------------------------------------------------
-- Usage of a Volume
------------------------------------------------------------

namespace VolumeStats

/- A request for the usage of a volume as messages carry it. -/
structure Message where
  volumeId : String := ""
  volumePath : String := ""
  stagingPath : String := ""
  deriving DecidableEq, Repr

/- A request for the usage of the volume at a path. -/
structure Request where
  volumeId : String
  volumePath : Path
  stagingPath : Option Path
  deriving DecidableEq, Repr

/- Reads a request; the first wrong field is reported. -/
def Request.ofMessage
    (message : Message) : Except Status Request := do
  let volumeId ←
    required message.volumeId
      "NodeGetVolumeStatsRequest.volume_id is empty"
  let volumePath ←
    absolutePath message.volumePath
      "NodeGetVolumeStatsRequest.volume_path"
  let stagingPath ←
    optionalAbsolutePath message.stagingPath
      "NodeGetVolumeStatsRequest.staging_target_path"
  return ⟨volumeId, volumePath, stagingPath⟩

/- The usage and the condition of a volume. -/
structure Report where
  usage : List Usage
  condition : Option Condition
  deriving DecidableEq, Repr

/- A report as messages carry it. -/
structure Answer where
  usage : List UsageMessage
  condition : Option Condition
  deriving DecidableEq, Repr

/- Writes a report. -/
def Report.toAnswer
    (report : Report) : Answer :=
  ⟨report.usage.map Usage.toMessage, report.condition⟩

/- How the request fails. -/
inductive Error where
  | volumeMissing (detail : String)
  | other (status : Status)
  deriving DecidableEq, Repr

namespace Error

/- The wording of an error in reports. -/
def display? : Error → Option String
  | volumeMissing detail =>
      some ("Volume does not exist: " ++ detail)
  | other _ => none

/- The answer to a failed request. -/
def status : Error → Status
  | volumeMissing detail => .notFound detail
  | other status => status

end Error

end VolumeStats

------------------------------------------------------------
-- The Node
------------------------------------------------------------

/-
  Who a node is, how many volumes it takes, and where it is.
-/
structure NodeInfo where
  nodeId : String
  volumeLimit : Option Nat
  topology : Option Dictionary
  deriving DecidableEq, Repr

namespace NodeInfo

/- A node as messages carry it; no limit is zero. -/
structure Answer where
  nodeId : String
  volumeLimit : Int
  topology : Option Dictionary
  deriving DecidableEq, Repr

/- Writes a node. -/
def toAnswer
    (info : NodeInfo) : Answer :=
  { nodeId := info.nodeId
    volumeLimit :=
      match info.volumeLimit with
      | none => 0
      | some n => signed64 n
    topology := info.topology }

/- How the request fails. -/
inductive Error where
  | unavailable (detail : String)
  | other (status : Status)
  deriving DecidableEq, Repr

namespace Error

/- The wording of an error in reports. -/
def display? : Error → Option String
  | unavailable detail =>
      some ("Node identity unavailable: " ++ detail)
  | other _ => none

/- The answer to a failed request. -/
def status : Error → Status
  | unavailable detail => .unavailable detail
  | other status => status

end Error

end NodeInfo

end Csi

end BlockVolumes
