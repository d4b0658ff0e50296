import BlockVolumes.Csi.Controller
import BlockVolumes.Csi.Node
import BlockVolumes.Document

/-
  The messages of the services as documents. A field that is
  missing has the value that stands for none.

  Key definitions include:
    * `Csi.Controller.Message.ofDocument`
    * `Csi.Node.Message.ofDocument`
-/

namespace BlockVolumes

namespace Csi

------------------------------------------------------------
-- Fields of Messages
------------------------------------------------------------

/- The access type of a capability: a mount goes before a block. -/
def AccessMessage.ofDocument?
    (document : Document) : Option AccessMessage :=
  match document.field? "mount" with
  | some spec =>
      some (.mount (spec.textAt "fs_type")
        (spec.textsAt "mount_flags"))
  | none => if document.flagAt "block" then some .block else none

def CapabilityMessage.ofDocument
    (document : Document) : CapabilityMessage :=
  { mode :=
      (document.field "access_mode").toInteger?.map
        Document.narrow
    access := AccessMessage.ofDocument? document }

def RangeMessage.ofDocument
    (document : Document) : RangeMessage :=
  { required := document.integerAt "required_bytes"
    limit := document.integerAt "limit_bytes" }

/- A source of content: a snapshot goes before a volume. -/
def ContentSource.ofDocument?
    (document : Document) : Option ContentSource :=
  match document.text? "snapshot", document.text? "volume" with
  | some id, _ => some (.snapshot id)
  | none, some id => some (.volume id)
  | none, none => none

def TopologyRequirement.ofDocument
    (document : Document) : TopologyRequirement :=
  { requisite :=
      (document.itemsAt "requisite").map Document.toDictionary
    preferred :=
      (document.itemsAt "preferred").map Document.toDictionary }

/- The only capability of a message. -/
def capabilityOf?
    (document : Document) : Option CapabilityMessage :=
  (document.field? "volume_capability").map
    CapabilityMessage.ofDocument

/- All capabilities of a message. -/
def capabilitiesOf
    (document : Document) : List CapabilityMessage :=
  (document.itemsAt "volume_capabilities").map
    CapabilityMessage.ofDocument

/- The range of sizes of a message. -/
def rangeOf?
    (document : Document) : Option RangeMessage :=
  (document.field? "capacity_range").map RangeMessage.ofDocument

/- The questions that both services take. -/
def Identity.Question.named? : String → Option Identity.Question
  | "GetPluginInfo" => some .name
  | "GetPluginCapabilities" => some .capabilities
  | "Probe" => some .readiness
  | _ => none

/- A question by its name, which may tell the service too. -/
def Identity.Question.ofProcedure?
    (procedure : String) : Option Identity.Question :=
  match Text.splitAtEvery '/' procedure with
  | ["Identity", question] => named? question
  | _ => named? procedure

------------------------------------------------------------
-- Messages to a Controller
------------------------------------------------------------

def CreateVolume.Message.ofDocument
    (document : Document) : CreateVolume.Message :=
  { name := document.textAt "name"
    range := rangeOf? document
    capabilities := capabilitiesOf document
    parameters := document.dictionaryAt "parameters"
    secrets := document.dictionaryAt "secrets"
    source :=
      ContentSource.ofDocument?
        (document.field "volume_content_source")
    requirement :=
      (document.field? "accessibility_requirements").map
        TopologyRequirement.ofDocument }

def PublishVolume.Message.ofDocument
    (document : Document) : PublishVolume.Message :=
  { volumeId := document.textAt "volume_id"
    nodeId := document.textAt "node_id"
    capability := capabilityOf? document
    readonly := document.flagAt "readonly"
    secrets := document.dictionaryAt "secrets"
    context := document.dictionaryAt "volume_context" }

def ValidateCapabilities.Message.ofDocument
    (document : Document) : ValidateCapabilities.Message :=
  { volumeId := document.textAt "volume_id"
    context := document.dictionaryAt "volume_context"
    capabilities := capabilitiesOf document
    parameters := document.dictionaryAt "parameters"
    secrets := document.dictionaryAt "secrets" }

/- The message to a controller under the name of a procedure. -/
def Controller.Message.ofDocument
    (procedure : String)
    (document : Document) : Controller.Message :=
  match procedure with
  | "ControllerGetCapabilities" => .features
  | "CreateVolume" => .create (.ofDocument document)
  | "DeleteVolume" =>
      .delete
        { volumeId := document.textAt "volume_id"
          secrets := document.dictionaryAt "secrets" }
  | "ControllerPublishVolume" => .publish (.ofDocument document)
  | "ControllerUnpublishVolume" =>
      .unpublish
        { volumeId := document.textAt "volume_id"
          nodeId := document.textAt "node_id"
          secrets := document.dictionaryAt "secrets" }
  | "ValidateVolumeCapabilities" =>
      .validate (.ofDocument document)
  | "ListVolumes" =>
      .list
        { maxEntries := document.narrowAt "max_entries"
          startingToken := document.textAt "starting_token" }
  | "ControllerExpandVolume" =>
      .expand
        { volumeId := document.textAt "volume_id"
          range := rangeOf? document
          secrets := document.dictionaryAt "secrets"
          capability := capabilityOf? document }
  | "ControllerGetVolume" =>
      .get { volumeId := document.textAt "volume_id" }
  | "GetCapacity" => .unoffered procedure
  | "CreateSnapshot" => .unoffered procedure
  | "DeleteSnapshot" => .unoffered procedure
  | "ListSnapshots" => .unoffered procedure
  | _ =>
      match Identity.Question.ofProcedure? procedure with
      | some question => .identity question
      | none => .unheardOf

------------------------------------------------------------
-- Messages to a Node
------------------------------------------------------------

def NodeStage.Message.ofDocument
    (document : Document) : NodeStage.Message :=
  { volumeId := document.textAt "volume_id"
    publishContext := document.dictionaryAt "publish_context"
    stagingPath := document.textAt "staging_target_path"
    capability := capabilityOf? document
    secrets := document.dictionaryAt "secrets"
    context := document.dictionaryAt "volume_context" }

def NodePublish.Message.ofDocument
    (document : Document) : NodePublish.Message :=
  { volumeId := document.textAt "volume_id"
    publishContext := document.dictionaryAt "publish_context"
    stagingPath := document.textAt "staging_target_path"
    targetPath := document.textAt "target_path"
    capability := capabilityOf? document
    readonly := document.flagAt "readonly"
    secrets := document.dictionaryAt "secrets"
    context := document.dictionaryAt "volume_context" }

/- The message to a node under the name of a procedure. -/
def Node.Message.ofDocument
    (procedure : String)
    (document : Document) : Node.Message :=
  match procedure with
  | "NodeGetCapabilities" => .features
  | "NodeGetInfo" => .info
  | "NodeStageVolume" => .stage (.ofDocument document)
  | "NodeUnstageVolume" =>
      .unstage
        { volumeId := document.textAt "volume_id"
          stagingPath := document.textAt "staging_target_path" }
  | "NodePublishVolume" => .publish (.ofDocument document)
  | "NodeUnpublishVolume" =>
      .unpublish
        { volumeId := document.textAt "volume_id"
          targetPath := document.textAt "target_path" }
  | "NodeGetVolumeStats" =>
      .usage
        { volumeId := document.textAt "volume_id"
          volumePath := document.textAt "volume_path"
          stagingPath := document.textAt "staging_target_path" }
  | "NodeExpandVolume" =>
      .expand
        { volumeId := document.textAt "volume_id"
          volumePath := document.textAt "volume_path"
          range := rangeOf? document
          stagingPath := document.textAt "staging_target_path"
          capability := capabilityOf? document }
  | _ =>
      match Identity.Question.ofProcedure? procedure with
      | some question => .identity question
      | none => .unheardOf

end Csi

end BlockVolumes
