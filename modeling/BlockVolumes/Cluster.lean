import BlockVolumes.Dictionary
import BlockVolumes.Text.Numeral

/-
  The nodes of the cluster and the directory that keeps them,
  and what the labels of a node say about its place.

  Key definitions include:
    * `Cluster.Node`
    * `Cluster.Call`
    * `Topology`
    * `Topology.ofLabels?`
    * `Topology.segments`
-/

namespace BlockVolumes

namespace Cluster

------------------------------------------------------------
-- Labels
------------------------------------------------------------

def regionKey : String := "topology.blockdisk.csi.io/region"

def zoneKey : String := "topology.blockdisk.csi.io/zone"

def instanceTypeKey : String :=
  "topology.blockdisk.csi.io/instance-type"

def volumeLimitKey : String :=
  "topology.blockdisk.csi.io/max-volumes"

/- The label that says whether a disk type is available. -/
def diskTypeKey
    (diskType : String) : String :=
  "disk.blockdisk.csi.io/" ++ diskType

------------------------------------------------------------
-- Nodes
------------------------------------------------------------

/- A node of the cluster and the instance it runs on. -/
structure Node where
  name : String
  instanceId : Option String
  labels : Dictionary
  ready : Bool
  deriving DecidableEq, Repr

namespace Node

/- The value of a label, unless it is empty. -/
def label?
    (node : Node)
    (key : String) : Option String :=
  (node.labels.find? key).filter (! ·.isEmpty)

def zone?
    (node : Node) : Option String :=
  node.label? zoneKey

end Node

------------------------------------------------------------
-- The Directory
------------------------------------------------------------

/- How a request to the directory fails. -/
inductive Error where
  | nodeNotFound (name : String)
  | failed (reason : String)
  deriving DecidableEq, Repr

namespace Error

/- The wording of an error. -/
def message : Error → String
  | nodeNotFound name => "Node not found: " ++ name
  | failed reason => "Cluster API request failed: " ++ reason

def isNotFound : Error → Bool
  | nodeNotFound _ => true
  | failed _ => false

end Error

/-
  The requests of the directory. Patching labels leaves those
  alone that it does not name.
-/
inductive Call where
  | getNode (name : String)
  | listNodes (role : String)
  | findNode (instanceId : String)
  | patchLabels (name : String) (labels : Dictionary)
  deriving DecidableEq, Repr

namespace Call

/- What a request is answered with when it succeeds. -/
abbrev Result : Call → Type
  | getNode _ => Node
  | listNodes _ => List Node
  | findNode _ => Option Node
  | patchLabels _ _ => Unit

/- The answer to a request. -/
abbrev Reply
    (call : Call) : Type :=
  Except Error call.Result

/- The name of a request. -/
def name : Call → String
  | getNode _ => "get_node"
  | listNodes _ => "list_nodes"
  | findNode _ => "find_node"
  | patchLabels _ _ => "patch"

end Call

end Cluster

------------------------------------------------------------
-- Topology
------------------------------------------------------------

/-
  Where a node is and how many volumes it takes.
-/
structure Topology where
  region : String
  zone : String
  volumeLimit : Nat
  deriving DecidableEq, Repr

namespace Topology

/-
  What the labels of a node say. Both the zone and the limit
  have to be there, and the limit is a number of 64 bits.
-/
def ofLabels?
    (node : Cluster.Node) : Option Topology := do
  let zone ← node.zone?
  let limit ← node.label? Cluster.volumeLimitKey
  match Text.readNatural (UInt64.size - 1) limit with
  | .ok volumeLimit =>
      some
        { region := (node.label? Cluster.regionKey).getD ""
          zone := zone
          volumeLimit := volumeLimit }
  | .error _ => none

/- The parts of the place that are known. -/
def segments
    (topology : Topology) : Dictionary :=
  (if topology.region.isEmpty then []
    else [(Cluster.regionKey, topology.region)]) ++
  (if topology.zone.isEmpty then []
    else [(Cluster.zoneKey, topology.zone)])

end Topology

end BlockVolumes
