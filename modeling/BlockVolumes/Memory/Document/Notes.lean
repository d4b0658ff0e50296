import BlockVolumes.Csi.Document.Message
import BlockVolumes.Memory.Plugin

/-
  Plugins that answer as they are told as documents: what they
  say about themselves, what they answer, and what they saw.

  Key definitions include:
    * `Csi.Identity.ofDocument`
    * `Memory.ControllerAnswers.ofDocument`
    * `Memory.NodeAnswers.ofDocument`
    * `Memory.Sighting.toDocument`
-/

namespace BlockVolumes

------------------------------------------------------------
-- Identities and Features
------------------------------------------------------------

namespace Csi

def Expansion.named : String → Expansion
  | "offline" => offline
  | "online" => online
  | _ => never

/- A plugin, of which a bare one has no more than its name. -/
def Identity.ofDocument
    (document : Document) : Identity :=
  let plain : Identity :=
    { name := document.textAt "name"
      version := document.textAt "version" }
  if document.flagAt "bare" then plain
  else
    { plain with
      manifest := document.dictionaryAt "manifest"
      placed := document.flagAt "constraints"
      expansion := .named (document.textAt "expansion")
      ready := document.flagOr true "ready" }

end Csi

namespace Memory

/- The elements whose bits are set, from the lowest bit on. -/
def ofBits
    {α : Type}
    (bits : Nat) :
    List α → List α
  | [] => []
  | a :: as =>
      if bits % 2 = 1 then a :: ofBits (bits / 2) as
      else ofBits (bits / 2) as

------------------------------------------------------------
-- Answers
------------------------------------------------------------

end Memory

namespace Csi

/- A condition under the name of its kind. -/
def Condition.ofDocument?
    (document : Document) : Option Condition :=
  match document.text? "normal", document.text? "abnormal" with
  | some message, _ => some (.normal message)
  | none, some message => some (.broken message)
  | none, none => none

def Volume.ofDocument
    (document : Document) : Volume :=
  { id := document.textAt "volume_id"
    capacity := nonzero (document.naturalAt "capacity_bytes")
    context := document.dictionaryAt "volume_context"
    topology :=
      (document.itemsAt "accessible_topology").map
        Document.toDictionary }

def VolumeState.ofDocument
    (document : Document) : VolumeState :=
  { nodes := document.textsAt "nodes"
    condition :=
      Condition.ofDocument? (document.field "condition") }

def ListVolumes.Entry.ofDocument
    (document : Document) : ListVolumes.Entry :=
  { volume := .ofDocument document
    state :=
      (document.field? "status").map VolumeState.ofDocument }

/- A usage, of bytes unless it is one of inodes. -/
def Usage.ofDocument
    (document : Document) : Usage :=
  { unit :=
      if document.flagAt "inodes" then .inodes else .bytes
    total := document.naturalAt "total"
    available := document.naturalAt "available"
    used := document.naturalAt "used" }

def NodeInfo.ofDocument
    (document : Document) : NodeInfo :=
  { nodeId := document.textAt "node_id"
    volumeLimit := nonzero (document.naturalAt "max_volumes")
    topology :=
      (document.field? "topology").map Document.toDictionary }

end Csi

namespace Memory

/- The answers of a controller under the names of procedures. -/
def ControllerAnswers.ofDocument
    (document : Document) : ControllerAnswers :=
  let expanded := document.field "ControllerExpandVolume"
  let got := document.field "ControllerGetVolume"
  { create := .ofDocument (document.field "CreateVolume")
    deletionFault := document.text? "DeleteVolume"
    publish := document.dictionaryAt "ControllerPublishVolume"
    unpublicationFault :=
      document.text? "ControllerUnpublishVolume"
    objection := document.text? "ValidateVolumeCapabilities"
    list :=
      (document.itemsAt "ListVolumes").map
        Csi.ListVolumes.Entry.ofDocument
    expand :=
      { capacity := expanded.naturalAt "capacity_bytes"
        nodeMustExpand := expanded.flagAt "required" }
    get := (.ofDocument got, .ofDocument (got.field "status")) }

/-
  The answers of a node under the names of procedures. A text
  in place of the node says why it is not known.
-/
def NodeAnswers.ofDocument
    (document : Document) : NodeAnswers :=
  let usage := document.field "NodeGetVolumeStats"
  { usage :=
      { usage :=
          (usage.itemsAt "usage").map Csi.Usage.ofDocument
        condition :=
          Csi.Condition.ofDocument? (usage.field "condition") }
    expand := Csi.nonzero (document.naturalAt "NodeExpandVolume")
    info :=
      match document.text? "NodeGetInfo" with
      | some detail => .error detail
      | none => .ok (.ofDocument (document.field "NodeGetInfo")) }

/- The controller that a document describes. -/
def controllerOf
    (document : Document) : Csi.Controller Notebook :=
  let identity := Csi.Identity.ofDocument document
  if document.flagAt "bare" then bareController identity
  else
    controller identity
      (ofBits (document.naturalAt "capabilities")
        Csi.Controller.Feature.all)
      (.ofDocument (document.field "replies"))

/- The node that a document describes. -/
def nodeOf
    (document : Document) : Csi.Node Notebook :=
  let identity := Csi.Identity.ofDocument document
  if document.flagAt "bare" then bareNode identity
  else
    node identity
      (ofBits (document.naturalAt "capabilities")
        Csi.Node.Feature.all)
      (.ofDocument (document.field "replies"))

end Memory

------------------------------------------------------------
-- What Was Seen
------------------------------------------------------------

namespace Csi

/- A capability as a plugin sees it. -/
def Capability.report
    (capability : Capability) : Document :=
  .record
    [("mode", .text capability.mode.name),
      ("mount",
        .ofOption
          (fun spec =>
            .record
              [("fs_type", .ofOption .text spec.filesystem),
                ("flags", .ofTexts spec.flags),
                ("count", .ofNatural spec.flags.length)])
          capability.access.mount?)]

def TopologyRequirement.report
    (requirement : TopologyRequirement) : Document :=
  .record
    [("requisite", .ofList .ofDictionary requirement.requisite),
      ("preferred", .ofList .ofDictionary requirement.preferred)]

def Usage.report
    (usage : Usage) : Document :=
  .list
    [.text usage.unit.name, .ofNatural usage.total,
      .ofNatural usage.available, .ofNatural usage.used]

end Csi

/- Both bounds of a range of sizes. -/
def Capacity.Range.report
    (range : Capacity.Range) : Document :=
  .list
    [.ofOption .ofNatural range.required?,
      .ofOption .ofNatural range.limit?]

namespace Memory

namespace Sighting

def reportCreate
    (request : Csi.CreateVolume.Request) : Document :=
  .record
    [("name", .text request.name),
      ("range", .ofOption Capacity.Range.report request.range),
      ("capabilities",
        .ofList Csi.Capability.report request.capabilities),
      ("parameters", .ofDictionary request.parameters),
      ("secrets", .ofDictionary request.secrets),
      ("content_source",
        .ofOption (fun source => .text source.describe)
          request.source),
      ("requirements",
        .ofOption Csi.TopologyRequirement.report
          request.requirement)]

def reportCreated
    (volume : Csi.Volume) : Document :=
  .record
    [("capacity_bytes", .ofOption .ofNatural volume.capacity),
      ("volume_id", .text volume.id),
      ("context", .ofDictionary volume.context),
      ("content_source", .boolean volume.source.isSome),
      ("topologies", .ofNatural volume.topology.length)]

def reportPublish
    (request : Csi.PublishVolume.Request) : Document :=
  .record
    [("volume_id", .text request.volumeId),
      ("node_id", .text request.nodeId),
      ("capability", request.capability.report),
      ("readonly", .boolean request.readonly),
      ("secrets", .ofDictionary request.secrets),
      ("context", .ofDictionary request.context)]

def reportValidate
    (request : Csi.ValidateCapabilities.Request) : Document :=
  .record
    [("volume_id", .text request.volumeId),
      ("context", .ofDictionary request.context),
      ("capabilities",
        .ofList Csi.Capability.report request.capabilities),
      ("parameters", .ofDictionary request.parameters),
      ("secrets", .ofDictionary request.secrets)]

def reportExpand
    (request : Csi.ExpandVolume.Request) : Document :=
  .record
    [("volume_id", .text request.volumeId),
      ("range", request.range.report),
      ("secrets", .ofDictionary request.secrets),
      ("capability",
        .ofOption Csi.Capability.report request.capability)]

def reportGot
    (request : Csi.GetVolume.Request)
    (volume : Csi.Volume)
    (state : Csi.VolumeState) : Document :=
  .record
    [("volume_id", .text request.volumeId),
      ("reply_id", .text volume.id),
      ("nodes", .ofTexts state.nodes),
      ("condition",
        .ofOption
          (fun condition =>
            .list
              [.boolean condition.abnormal,
                .text condition.message])
          state.condition)]

def reportNodeStage
    (request : Csi.NodeStage.Request) : Document :=
  .record
    [("volume_id", .text request.volumeId),
      ("publish_context", .ofDictionary request.publishContext),
      ("staging", .text request.stagingPath.text),
      ("capability", request.capability.report),
      ("secrets", .ofDictionary request.secrets),
      ("context", .ofDictionary request.context)]

/- A path that may be missing. -/
def reportPath
    (path : Option Path) : Document :=
  .ofOption (fun path => .text path.text) path

def reportNodePublish
    (request : Csi.NodePublish.Request) : Document :=
  .record
    [("volume_id", .text request.volumeId),
      ("publish_context", .ofDictionary request.publishContext),
      ("staging", reportPath request.stagingPath),
      ("target", .text request.targetPath.text),
      ("readonly", .boolean request.readonly),
      ("capability", request.capability.report),
      ("secrets", .ofDictionary request.secrets),
      ("context", .ofDictionary request.context)]

def reportNodeExpand
    (request : Csi.NodeExpand.Request) : Document :=
  .record
    [("volume_id", .text request.volumeId),
      ("path", .text request.volumePath.text),
      ("staging", reportPath request.stagingPath),
      ("range", .ofOption Capacity.Range.report request.range),
      ("capability",
        .ofOption Csi.Capability.report request.capability)]

/- What a plugin saw. -/
def toDocument : Sighting → Document
  | create request => reportCreate request
  | created volume => reportCreated volume
  | delete request =>
      .record
        [("volume_id", .text request.volumeId),
          ("secrets", .ofDictionary request.secrets)]
  | publish request => reportPublish request
  | published context => .ofDictionary context
  | unpublish request =>
      .record
        [("volume_id", .text request.volumeId),
          ("node_id", .text request.nodeId),
          ("secrets", .ofDictionary request.secrets)]
  | validate request => reportValidate request
  | confirmed count => .ofNatural count
  | list request =>
      .record
        [("max_entries", .ofOption .ofNatural request.maxEntries),
          ("starting_token", .ofOption .text request.startingToken)]
  | expand request => reportExpand request
  | expanded outcome =>
      .list
        [.ofNatural outcome.capacity,
          .boolean outcome.nodeMustExpand]
  | got request volume state => reportGot request volume state
  | nodeStage request => reportNodeStage request
  | nodeUnstage request =>
      .record
        [("volume_id", .text request.volumeId),
          ("staging", .text request.stagingPath.text)]
  | nodePublish request => reportNodePublish request
  | nodeUnpublish request =>
      .record
        [("volume_id", .text request.volumeId),
          ("target", .text request.targetPath.text)]
  | usage request =>
      .record
        [("volume_id", .text request.volumeId),
          ("path", .text request.volumePath.text),
          ("staging", reportPath request.stagingPath)]
  | usageReport report =>
      .record
        [("condition",
            .ofOption (fun condition => .text condition.message)
              report.condition),
          ("usage", .ofList Csi.Usage.report report.usage)]
  | nodeExpand request => reportNodeExpand request
  | nodeExpanded capacity => .ofOption .ofNatural capacity
  | info node =>
      .list
        [.text node.nodeId, .ofOption .ofNatural node.volumeLimit,
          .ofOption .ofDictionary node.topology]

end Sighting

end Memory

end BlockVolumes
