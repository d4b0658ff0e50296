import BlockVolumes.Cluster
import BlockVolumes.Memory.Script

/-
  A cluster directory in memory.

  Key definitions include:
    * `Memory.Member`
    * `Memory.Directory`
    * `Memory.Directory.answer`
-/

namespace BlockVolumes

namespace Memory

open Cluster (Call Error Node)

/- A node of the directory and its role. -/
structure Member where
  role : String
  node : Node
  deriving DecidableEq, Repr

/- The state of a directory, in the order of the names. -/
structure Directory where
  members : List Member := []
  failures : Failures Error := []
  deriving DecidableEq, Repr

namespace Directory

/- Puts a node at its place among others. -/
def insertMember
    (member : Member) :
    List Member → List Member
  | [] => [member]
  | other :: members =>
      if member.node.name < other.node.name then
        member :: other :: members
      else if member.node.name = other.node.name then
        member :: members
      else other :: insertMember member members

/- The directory with a node put in or replaced. -/
def put
    (directory : Directory)
    (member : Member) : Directory :=
  { directory with
    members := insertMember member directory.members }

/- The directory without a node. -/
def remove
    (directory : Directory)
    (name : String) : Directory :=
  { directory with
    members :=
      directory.members.filter fun member =>
        member.node.name != name }

/- The node with a name. -/
def member?
    (directory : Directory)
    (name : String) : Option Member :=
  directory.members.find? fun member => member.node.name == name

/- All nodes. -/
def nodes
    (directory : Directory) : List Node :=
  directory.members.map (·.node)

/- Puts labels over those of a node. -/
def patch
    (directory : Directory)
    (name : String)
    (labels : Dictionary) : Except Error Unit × Directory :=
  match directory.member? name with
  | none => (.error (.nodeNotFound name), directory)
  | some member =>
      let node :=
        { member.node with labels := member.node.labels.merge labels }
      (.ok (), directory.put { member with node := node })

/- Performs a call that does not fail by script. -/
def perform
    (directory : Directory) :
    (call : Call) → call.Reply × Directory
  | .getNode name =>
      match directory.member? name with
      | none => (.error (.nodeNotFound name), directory)
      | some member => (.ok member.node, directory)
  | .listNodes role =>
      (.ok ((directory.members.filter fun member =>
        member.role == role).map (·.node)), directory)
  | .findNode instanceId =>
      (.ok (directory.nodes.find? fun node =>
        node.instanceId == some instanceId), directory)
  | .patchLabels name labels => directory.patch name labels

/- Answers a call. A call that fails by script has no effect. -/
def answer
    (directory : Directory)
    (call : Call) : call.Reply × Directory :=
  let (failure, failures) := directory.failures.take call.name
  let directory := { directory with failures := failures }
  match failure with
  | some error => (.error error, directory)
  | none => directory.perform call

end Directory

end Memory

end BlockVolumes
