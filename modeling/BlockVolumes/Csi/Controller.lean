import BlockVolumes.Csi.Attachment
import BlockVolumes.Csi.Growth
import BlockVolumes.Csi.Identity
import BlockVolumes.Csi.Inspection
import BlockVolumes.Csi.Procedure
import BlockVolumes.Csi.Provisioning

/-
  The controller service: its messages and answers, and how a
  plugin for it is served.

  Key definitions include:
    * `Csi.Controller`
    * `Csi.Controller.Feature`
    * `Csi.Controller.Message`
    * `Csi.Controller.Answer`
    * `Csi.Controller.serve`
-/

namespace BlockVolumes

namespace Csi

open Rpc (Status)

namespace Controller

------------------------------------------------------------
-- Features
------------------------------------------------------------

/- What a controller may be able to do beyond the least. -/
inductive Feature where
  | createAndDelete
  | attachAndDetach
  | list
  | readonlyAttachment
  | expand
  | listNodes
  | conditions
  | get
  deriving DecidableEq, Repr

namespace Feature

/- All features in the order of their numbers. -/
def all : List Feature :=
  [createAndDelete, attachAndDetach, list, readonlyAttachment,
    expand, listNodes, conditions, get]

/- The number of a feature in messages. -/
def number : Feature → Int
  | createAndDelete => 1
  | attachAndDetach => 2
  | list => 3
  | readonlyAttachment => 8
  | expand => 9
  | listNodes => 10
  | conditions => 11
  | get => 12

end Feature

------------------------------------------------------------
-- Messages and Answers
------------------------------------------------------------

/-
  The messages to a controller. Some procedures are known but
  never offered, and others are not even known.
-/
inductive Message where
  | identity (question : Identity.Question)
  | features
  | create (message : CreateVolume.Message)
  | delete (request : DeleteVolume.Request)
  | publish (message : PublishVolume.Message)
  | unpublish (request : UnpublishVolume.Request)
  | validate (message : ValidateCapabilities.Message)
  | list (message : ListVolumes.Message)
  | expand (message : ExpandVolume.Message)
  | get (request : GetVolume.Request)
  | unoffered (procedure : String)
  | unheardOf
  deriving DecidableEq, Repr

/- A volume of a list as messages carry it. -/
structure ListedVolume where
  volume : VolumeMessage
  state : Option VolumeState
  deriving DecidableEq, Repr

/- The answers of a controller. -/
inductive Answer where
  | identity (answer : Identity.Answer)
  | features (numbers : List Int)
  | created (volume : VolumeMessage)
  | deleted
  | published (context : Dictionary)
  | unpublished
  | validated (answer : ValidateCapabilities.Answer)
  | listed (volumes : List ListedVolume)
  | expanded (answer : ExpandVolume.Answer)
  | got (volume : VolumeMessage) (state : VolumeState)
  deriving DecidableEq, Repr

end Controller

------------------------------------------------------------
-- Plugins
------------------------------------------------------------

/-
  A plugin for the controller service. It need not handle any
  request but the validation of capabilities.
-/
structure Controller
    (I : Interface) where
  identity : Identity
  features : List Controller.Feature := []
  create : Option
    (CreateVolume.Request →
      Program I CreateVolume.Error Volume) := none
  delete : Option
    (DeleteVolume.Request →
      Program I DeleteVolume.Error Unit) := none
  publish : Option
    (PublishVolume.Request →
      Program I PublishVolume.Error Dictionary) := none
  unpublish : Option
    (UnpublishVolume.Request →
      Program I UnpublishVolume.Error Unit) := none
  validate :
    ValidateCapabilities.Request →
      Program I ValidateCapabilities.Error
        ValidateCapabilities.Verdict
  list : Option
    (ListVolumes.Request →
      Program I ListVolumes.Error
        (List ListVolumes.Entry)) := none
  expand : Option
    (ExpandVolume.Request →
      Program I ExpandVolume.Error
        ExpandVolume.Outcome) := none
  get : Option
    (GetVolume.Request →
      Program I GetVolume.Error (Volume × VolumeState)) := none

namespace Controller

variable {I : Interface}

/- Writes a volume of a list. -/
def writeEntry
    (entry : ListVolumes.Entry) : ListedVolume :=
  ⟨entry.volume.toMessage, entry.state⟩

/- The numbers of the features that a plugin has. -/
def featureNumbers
    (features : List Feature) : List Int :=
  (Feature.all.filter fun feature =>
    features.contains feature).map Feature.number

/- Answers a message by the handlers of a plugin. -/
def serve
    (plugin : Controller I) :
    Message → Program I Status Answer
  | .identity question =>
      .done (.identity (plugin.identity.answer .controller question))
  | .features => .done (.features (featureNumbers plugin.features))
  | .create message =>
      procedure "CreateVolume" CreateVolume.Error.status
        (fun volume => .created volume.toMessage)
        plugin.create (CreateVolume.Request.ofMessage message)
  | .delete request =>
      procedure "DeleteVolume" DeleteVolume.Error.status
        (fun _ => .deleted)
        plugin.delete request.check
  | .publish message =>
      procedure "ControllerPublishVolume" PublishVolume.Error.status
        .published
        plugin.publish (PublishVolume.Request.ofMessage message)
  | .unpublish request =>
      procedure "ControllerUnpublishVolume"
        UnpublishVolume.Error.status
        (fun _ => .unpublished)
        plugin.unpublish request.check
  | .validate message =>
      procedure "ValidateVolumeCapabilities"
        ValidateCapabilities.Error.status
        (fun verdict => .validated verdict.toAnswer)
        (some plugin.validate)
        (ValidateCapabilities.Request.ofMessage message)
  | .list message =>
      procedure "ListVolumes" ListVolumes.Error.status
        (fun entries => .listed (entries.map writeEntry))
        plugin.list (ListVolumes.Request.ofMessage message)
  | .expand message =>
      procedure "ControllerExpandVolume" ExpandVolume.Error.status
        (fun outcome => .expanded outcome.toAnswer)
        plugin.expand (ExpandVolume.Request.ofMessage message)
  | .get request =>
      procedure "ControllerGetVolume" GetVolume.Error.status
        (fun (volume, state) => .got volume.toMessage state)
        plugin.get request.check
  | .unoffered name => .failed (.unsupported name)
  | .unheardOf => .failed .unheardOf

end Controller

end Csi

end BlockVolumes
