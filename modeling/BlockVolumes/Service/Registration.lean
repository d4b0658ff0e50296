import BlockVolumes.Host
import BlockVolumes.Service.Error
import BlockVolumes.Settings

/-
  Registration of a node: what the backend knows about its
  instance is written into the labels of the node, where other
  programs and this one find it later.

  Key definitions include:
    * `Service.Registration.labels`
    * `Service.Registration.patch`
    * `Service.Registration.register`
    * `Service.Registration.lookup`
    * `Service.Registration.start`
-/

namespace BlockVolumes

namespace Service

namespace Registration

------------------------------------------------------------
-- Labels
------------------------------------------------------------

/- The labels that describe an instance. -/
def labels
    (info : Backend.InstanceInfo) : Dictionary :=
  info.diskTypes.foldl
    (fun acc diskType =>
      acc.insert (Cluster.diskTypeKey diskType) "available")
    [(Cluster.regionKey, info.region),
      (Cluster.zoneKey, info.zone),
      (Cluster.instanceTypeKey, info.instanceType),
      (Cluster.volumeLimitKey, toString info.volumeLimit)]

/- The topology of an instance. -/
def topology
    (info : Backend.InstanceInfo) : Topology :=
  { region := info.region
    zone := info.zone
    volumeLimit := info.volumeLimit }

------------------------------------------------------------
-- Registering
------------------------------------------------------------

/- Pauses between two attempts, for as long as it is possible. -/
def pauseFor :
    Option Duration → Program Host Error Unit
  | none => throw .pauseTooLong
  | some pause => Host.sleep pause

/-
  Writes labels, with a number of further attempts. There is a
  pause before each of them.
-/
def patch
    (backoff : Backoff)
    (nodeName : String)
    (labels : Dictionary)
    (attempt : Nat) :
    Nat → Program Host Error Unit
  | 0 =>
      during .cluster "patch labels of node" nodeName
        (Host.cluster (.patchLabels nodeName labels))
  | left + 1 => do
      match ← Host.askCluster (.patchLabels nodeName labels) with
      | .ok () => return ()
      | .error _ =>
          pauseFor (backoff.delay? attempt)
          patch backoff nodeName labels (attempt + 1) left

/-
  Writes the labels of this node and keeps its topology.
-/
def register
    (settings : Settings) : Program Host Error Topology := do
  let info ←
    during .backend "describe instance" settings.nodeId
      (Host.backend (.describe settings.nodeId))
  patch settings.registration settings.nodeName (labels info) 0
    (settings.registration.steps - 1)
  Host.keepTopology (topology info)
  return topology info

------------------------------------------------------------
-- Looking It Up
------------------------------------------------------------

/-
  The topology that is kept, else the one in the labels of
  this node, which is kept from then on.
-/
def lookup
    (settings : Settings) :
    Program Host Error (Option Topology) := do
  match ← Host.knownTopology with
  | some topology => return some topology
  | none =>
      let node ←
        during .cluster "get node" settings.nodeName
          (Host.cluster (.getNode settings.nodeName))
      match Topology.ofLabels? node with
      | some topology =>
          Host.keepTopology topology
          return some topology
      | none => return none

------------------------------------------------------------
-- In the Background
------------------------------------------------------------

/-
  A registration beside other work. It gives its claim back
  when it has ended, unless it broke down in a pause.
-/
def background
    {ε : Type}
    (settings : Settings) : Program Host ε Unit := do
  match ← (register settings).attempt with
  | .error .pauseTooLong => return ()
  | _ => Host.endRegistration

/- Starts a registration unless there is one already. -/
def start : Program Host Error Unit := do
  if ← Host.claimRegistration then
    Host.launchRegistration
  else
    return ()

end Registration

end Service

end BlockVolumes
