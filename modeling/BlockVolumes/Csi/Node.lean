import BlockVolumes.Csi.Growth
import BlockVolumes.Csi.Identity
import BlockVolumes.Csi.NodeReport
import BlockVolumes.Csi.Procedure
import BlockVolumes.Csi.Staging

/-
  The node service: its messages and answers, and how a plugin
  for it is served.

  Key definitions include:
    * `Csi.Node`
    * `Csi.Node.Feature`
    * `Csi.Node.Message`
    * `Csi.Node.Answer`
    * `Csi.Node.serve`
-/

namespace BlockVolumes

namespace Csi

open Rpc (Status)

namespace Node

------------------------------------------------------------
-- Features
------------------------------------------------------------

/- What a node may be able to do beyond the least. -/
inductive Feature where
  | staging
  | usage
  | expand
  | conditions
  deriving DecidableEq, Repr

namespace Feature

/- All features in the order of their numbers. -/
def all : List Feature :=
  [staging, usage, expand, conditions]

/- The number of a feature in messages. -/
def number : Feature → Int
  | staging => 1
  | usage => 2
  | expand => 3
  | conditions => 4

end Feature

------------------------------------------------------------
-- Messages and Answers
------------------------------------------------------------

/- The messages to a node. -/
inductive Message where
  | identity (question : Identity.Question)
  | features
  | stage (message : NodeStage.Message)
  | unstage (message : NodeUnstage.Message)
  | publish (message : NodePublish.Message)
  | unpublish (message : NodeUnpublish.Message)
  | usage (message : VolumeStats.Message)
  | expand (message : NodeExpand.Message)
  | info
  | unheardOf
  deriving DecidableEq, Repr

/- The answers of a node. -/
inductive Answer where
  | identity (answer : Identity.Answer)
  | features (numbers : List Int)
  | staged
  | unstaged
  | published
  | unpublished
  | usage (answer : VolumeStats.Answer)
  | expanded (capacityBytes : Int)
  | info (answer : NodeInfo.Answer)
  deriving DecidableEq, Repr

end Node

------------------------------------------------------------
-- Plugins
------------------------------------------------------------

/-
  A plugin for the node service. It has to publish volumes and
  to know its node.
-/
structure Node
    (I : Interface) where
  identity : Identity
  features : List Node.Feature := []
  stage : Option
    (NodeStage.Request → Program I NodeStage.Error Unit) := none
  unstage : Option
    (NodeUnstage.Request →
      Program I NodeUnstage.Error Unit) := none
  publish : NodePublish.Request → Program I NodePublish.Error Unit
  unpublish :
    NodeUnpublish.Request → Program I NodeUnpublish.Error Unit
  usage : Option
    (VolumeStats.Request →
      Program I VolumeStats.Error VolumeStats.Report) := none
  expand : Option
    (NodeExpand.Request →
      Program I NodeExpand.Error (Option Nat)) := none
  info : Unit → Program I NodeInfo.Error NodeInfo

namespace Node

variable {I : Interface}

/- The numbers of the features that a plugin has. -/
def featureNumbers
    (features : List Feature) : List Int :=
  (Feature.all.filter fun feature =>
    features.contains feature).map Feature.number

/- Writes a capacity; no capacity is zero. -/
def writeCapacity : Option Nat → Int
  | none => 0
  | some bytes => signed64 bytes

/-
  Answers a message by the handlers of a plugin. The message
  is read against the directories that exist at that time.
-/
def serve
    (plugin : Node I)
    (isDirectory : Path → Bool) :
    Message → Program I Status Answer
  | .identity question =>
      .done (.identity (plugin.identity.answer .node question))
  | .features => .done (.features (featureNumbers plugin.features))
  | .stage message =>
      procedure "NodeStageVolume" NodeStage.Error.status
        (fun _ => .staged)
        plugin.stage (NodeStage.Request.ofMessage isDirectory message)
  | .unstage message =>
      procedure "NodeUnstageVolume" NodeUnstage.Error.status
        (fun _ => .unstaged)
        plugin.unstage (NodeUnstage.Request.ofMessage message)
  | .publish message =>
      procedure "NodePublishVolume" NodePublish.Error.status
        (fun _ => .published)
        (some plugin.publish)
        (NodePublish.Request.ofMessage isDirectory message)
  | .unpublish message =>
      procedure "NodeUnpublishVolume" NodeUnpublish.Error.status
        (fun _ => .unpublished)
        (some plugin.unpublish)
        (NodeUnpublish.Request.ofMessage message)
  | .usage message =>
      procedure "NodeGetVolumeStats" VolumeStats.Error.status
        (fun report => .usage report.toAnswer)
        plugin.usage (VolumeStats.Request.ofMessage message)
  | .expand message =>
      procedure "NodeExpandVolume" NodeExpand.Error.status
        (fun capacity => .expanded (writeCapacity capacity))
        plugin.expand (NodeExpand.Request.ofMessage message)
  | .info =>
      procedure "NodeGetInfo" NodeInfo.Error.status
        (fun info => .info info.toAnswer)
        (some plugin.info) (.ok ())
  | .unheardOf => .failed .unheardOf

end Node

end Csi

end BlockVolumes
