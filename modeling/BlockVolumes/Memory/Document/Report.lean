import BlockVolumes.Memory.World
import BlockVolumes.Mount.Document

/-
  Reports on surroundings as documents: what was asked of them,
  and the state that they are in.

  Key definitions include:
    * `Memory.reportEvents`
    * `Memory.Action.toDocument`
    * `Disk.toDocument`
    * `Topology.toDocument`
    * `FileTree.report`
-/

namespace BlockVolumes

------------------------------------------------------------
-- Volumes, Nodes and Files
------------------------------------------------------------

def Disk.toDocument
    (disk : Disk) : Document :=
  .record
    [("id", .text disk.id), ("name", .text disk.name),
      ("size_gb", .ofNatural disk.size),
      ("status", .text disk.status.name),
      ("disk_type", .text disk.diskType),
      ("zone", .text disk.zone),
      ("attachments",
        .ofList (fun a => .ofTexts [a.instanceId, a.mountPoint])
          disk.attachments),
      ("tags", .ofDictionary disk.tags)]

def Topology.toDocument
    (topology : Topology) : Document :=
  .record
    [("region", .text topology.region),
      ("zone", .text topology.zone),
      ("max_volumes", .ofNatural topology.volumeLimit),
      ("segments", .ofDictionary topology.segments)]

/- A name with the sign of what it names. -/
def FileEntry.mark
    (name : String) : FileEntry → String
  | directory => name ++ "/"
  | link _ => name ++ "@"
  | file _ => name

/- What stands below a place, one line for each entry. -/
def FileTree.report
    (tree : FileTree)
    (place : FilePlace) : Document :=
  .ofList
    (fun (below, entry) =>
      .text (entry.mark ("/".intercalate below)))
    (tree.list place)

namespace Memory

/- The labels of all nodes under their names. -/
def Directory.reportLabels
    (directory : Directory) : Document :=
  .record (directory.nodes.map fun node =>
    (node.name, .ofDictionary node.labels))

------------------------------------------------------------
-- Events
------------------------------------------------------------

end Memory

def Backend.CreateSpec.toDocument
    (spec : Backend.CreateSpec) : Document :=
  .record
    [("name", .text spec.name), ("size_gb", .ofNatural spec.size),
      ("disk_type", .text spec.diskType), ("zone", .text spec.zone),
      ("region", .text spec.region),
      ("project_id", .ofOption .text spec.projectId),
      ("charge_type", .ofOption .text spec.chargeType),
      ("purchase_time", .ofOption .ofNatural spec.purchaseTime),
      ("performance_level",
        .ofOption .text spec.performanceLevel),
      ("tags", .ofDictionary spec.tags)]

/- What a request to the backend is about. -/
def Backend.Call.arguments : Backend.Call → List Document
  | create spec => [spec.toDocument]
  | delete id => [.text id]
  | get id => [.text id]
  | find name => [.text name]
  | list => []
  | expand id size => [.text id, .ofNatural size]
  | attach id instanceId => [.text id, .text instanceId]
  | detach id instanceId => [.text id, .text instanceId]
  | checkAttach instanceId diskType =>
      [.text instanceId, .text diskType]
  | attachedVolumes instanceId => [.text instanceId]
  | describe instanceId => [.text instanceId]

/- What a request to the directory is about. -/
def Cluster.Call.arguments : Cluster.Call → List Document
  | getNode name => [.text name]
  | listNodes role => [.text role]
  | findNode instanceId => [.text instanceId]
  | patchLabels name labels => [.text name, .ofDictionary labels]

namespace Memory

def Event.toDocument : Event → Document
  | backend call => .list (.text call.name :: call.arguments)
  | cluster call => .list (.text call.name :: call.arguments)

/- Each event with the number of times that it stands in a row. -/
def runsOf : List Event → List (Event × Nat)
  | [] => []
  | event :: events =>
      match runsOf events with
      | [] => [(event, 1)]
      | (next, times) :: runs =>
          if event = next then (event, times + 1) :: runs
          else (event, 1) :: (next, times) :: runs

/- A run of events; a single event stands for itself. -/
def reportRun
    (event : Event)
    (times : Nat) : Document :=
  if times = 1 then event.toDocument
  else .list [event.toDocument, .text ("x" ++ toString times)]

def reportEvents
    (events : List Event) : Document :=
  .ofList (fun run => reportRun run.1 run.2) (runsOf events)

------------------------------------------------------------
-- Actions
------------------------------------------------------------

def Action.toDocument : Action → Document
  | mounted source target filesystem options =>
      .list
        [.text "mount", .text source.text, .text target.text,
          .text filesystem, .ofTexts options]
  | unmounted target => .ofTexts ["unmount", target.text]
  | formatted device filesystem =>
      .ofTexts ["format", device.text, filesystem]
  | resized filesystem device mountPath =>
      .list
        [.text "resize", .ofOption .text filesystem,
          .text device.text, .text mountPath.text]
  | triggered => .ofTexts ["trigger_udev"]

end Memory

end BlockVolumes
