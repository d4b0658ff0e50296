import BlockVolumes.Csi.Controller
import BlockVolumes.Csi.Node
import BlockVolumes.Document

/-
  The answers of the services as documents.

  Key definitions include:
    * `Csi.Controller.Answer.toDocument`
    * `Csi.Node.Answer.toDocument`
-/

namespace BlockVolumes

namespace Csi

------------------------------------------------------------
-- Volumes
------------------------------------------------------------

def VolumeMessage.toDocument
    (volume : VolumeMessage) : Document :=
  .record
    [("capacity_bytes", .integer volume.capacityBytes),
      ("volume_id", .text volume.id),
      ("volume_context", .ofDictionary volume.context),
      ("has_content_source", .boolean volume.source.isSome),
      ("accessible_topology",
        .ofList .ofDictionary volume.topology)]

def Condition.toDocument
    (condition : Condition) : Document :=
  .record
    [("abnormal", .boolean condition.abnormal),
      ("message", .text condition.message)]

def VolumeState.toDocument
    (state : VolumeState) : Document :=
  .record
    [("published_node_ids", .ofTexts state.nodes),
      ("volume_condition",
        .ofOption Condition.toDocument state.condition)]

/- A volume with the state that may be known of it. -/
def ListedVolume.toDocument
    (listed : Controller.ListedVolume) : Document :=
  .record
    [("volume", listed.volume.toDocument),
      ("status", .ofOption VolumeState.toDocument listed.state)]

------------------------------------------------------------
-- Capabilities
------------------------------------------------------------

def AccessMessage.toDocument : AccessMessage → Document
  | block => .text "block"
  | mount filesystem flags =>
      .record
        [("fs_type", .text filesystem),
          ("mount_flags", .ofTexts flags)]

def CapabilityMessage.toDocument
    (capability : CapabilityMessage) : Document :=
  .record
    [("access_mode", .ofOption .integer capability.mode),
      ("access_type",
        .ofOption AccessMessage.toDocument capability.access)]

def ValidateCapabilities.ConfirmationMessage.toDocument
    (confirmation : ValidateCapabilities.ConfirmationMessage) :
    Document :=
  .record
    [("volume_context", .ofDictionary confirmation.context),
      ("parameters", .ofDictionary confirmation.parameters),
      ("volume_capabilities",
        .ofList CapabilityMessage.toDocument
          confirmation.capabilities)]

------------------------------------------------------------
-- Answers
------------------------------------------------------------

def PluginCapability.toDocument : PluginCapability → Document
  | service number => .record [("service", .integer number)]
  | expansion number =>
      .record [("volume_expansion", .integer number)]

def Identity.Answer.toDocument : Identity.Answer → Document
  | .name plugin version manifest =>
      .record
        [("name", .text plugin), ("vendor_version", .text version),
          ("manifest", .ofDictionary manifest)]
  | .capabilities offered =>
      .ofList PluginCapability.toDocument offered
  | .readiness ready => .record [("ready", .boolean ready)]

/- The answer of a controller. A list is never paged. -/
def Controller.Answer.toDocument : Controller.Answer → Document
  | identity answer => answer.toDocument
  | features numbers => .ofList .integer numbers
  | created volume => volume.toDocument
  | deleted => .record []
  | published context =>
      .record [("publish_context", .ofDictionary context)]
  | unpublished => .record []
  | validated answer =>
      .record
        [("message", .text answer.message),
          ("confirmed",
            .ofOption
              ValidateCapabilities.ConfirmationMessage.toDocument
              answer.confirmed)]
  | listed volumes =>
      .record
        [("entries", .ofList ListedVolume.toDocument volumes),
          ("next_token", .text "")]
  | expanded answer =>
      .record
        [("capacity_bytes", .integer answer.capacityBytes),
          ("node_expansion_required",
            .boolean answer.nodeMustExpand)]
  | got volume state => ListedVolume.toDocument ⟨volume, some state⟩

def UsageMessage.toDocument
    (usage : UsageMessage) : Document :=
  .record
    [("available", .integer usage.available),
      ("total", .integer usage.total),
      ("used", .integer usage.used),
      ("unit", .integer usage.unit)]

/- The answer of a node. -/
def Node.Answer.toDocument : Node.Answer → Document
  | identity answer => answer.toDocument
  | features numbers => .ofList .integer numbers
  | staged => .record []
  | unstaged => .record []
  | published => .record []
  | unpublished => .record []
  | usage answer =>
      .record
        [("usage", .ofList UsageMessage.toDocument answer.usage),
          ("volume_condition",
            .ofOption Condition.toDocument answer.condition)]
  | expanded bytes => .record [("capacity_bytes", .integer bytes)]
  | info answer =>
      .record
        [("node_id", .text answer.nodeId),
          ("max_volumes_per_node", .integer answer.volumeLimit),
          ("accessible_topology",
            .ofOption .ofDictionary answer.topology)]

end Csi

end BlockVolumes
