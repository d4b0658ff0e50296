import BlockVolumes.Csi.Controller
import BlockVolumes.Csi.Node

/-
  Plugins that answer as they are told and note down what they
  see: every request that reaches them, and what they answer.

  Key definitions include:
    * `Memory.Sighting`
    * `Memory.Notebook`
    * `Memory.ControllerAnswers`
    * `Memory.NodeAnswers`
    * `Memory.controller`
    * `Memory.node`
-/

namespace BlockVolumes

namespace Memory

open Csi
open Rpc (Status)

------------------------------------------------------------
-- Notes
------------------------------------------------------------

/- What a plugin can see. -/
inductive Sighting where
  | create (request : CreateVolume.Request)
  | created (volume : Volume)
  | delete (request : DeleteVolume.Request)
  | publish (request : PublishVolume.Request)
  | published (context : Dictionary)
  | unpublish (request : UnpublishVolume.Request)
  | validate (request : ValidateCapabilities.Request)
  | confirmed (count : Nat)
  | list (request : ListVolumes.Request)
  | expand (request : ExpandVolume.Request)
  | expanded (outcome : ExpandVolume.Outcome)
  | got
      (request : GetVolume.Request)
      (volume : Volume)
      (state : VolumeState)
  | nodeStage (request : NodeStage.Request)
  | nodeUnstage (request : NodeUnstage.Request)
  | nodePublish (request : NodePublish.Request)
  | nodeUnpublish (request : NodeUnpublish.Request)
  | usage (request : VolumeStats.Request)
  | usageReport (report : VolumeStats.Report)
  | nodeExpand (request : NodeExpand.Request)
  | nodeExpanded (capacity : Option Nat)
  | info (info : NodeInfo)
  deriving DecidableEq, Repr

/- The surroundings in which notes are taken. -/
def Notebook : Interface :=
  ⟨Sighting, fun _ => Unit⟩

/- Notes something down. -/
def note
    {ε : Type}
    (sighting : Sighting) : Program Notebook ε Unit :=
  Program.perform (I := Notebook) sighting

/- Puts a sighting behind the notes there are. -/
def takeNote
    (sighting : Sighting)
    (notes : List Sighting) : Unit × List Sighting :=
  ((), notes ++ [sighting])

/- A program with the notes that it takes. -/
def notesOf
    {ε α : Type}
    (program : Program Notebook ε α) :
    Except ε α × List Sighting :=
  Program.run (I := Notebook) takeNote program []

------------------------------------------------------------
-- Controllers
------------------------------------------------------------

/- The answers of a controller. -/
structure ControllerAnswers where
  create : Volume := { id := "", capacity := none }
  deletionFault : Option String := none
  publish : Dictionary := []
  unpublicationFault : Option String := none
  objection : Option String := none
  list : List ListVolumes.Entry := []
  expand : ExpandVolume.Outcome := ⟨0, false⟩
  get : Volume × VolumeState := ({ id := "", capacity := none }, {})
  deriving DecidableEq, Repr

/- A failure where there is one to be shown. -/
def failIf
    {ε : Type}
    (error : String → ε) :
    Option String → Program Notebook ε Unit
  | none => .done ()
  | some detail => .failed (error detail)

/- The verdict on capabilities. -/
def verdict
    (answers : ControllerAnswers)
    (request : ValidateCapabilities.Request) :
    Program Notebook ValidateCapabilities.Error
      ValidateCapabilities.Verdict := do
  note (.validate request)
  match answers.objection with
  | some reason => return .unconfirmed reason
  | none =>
      note (.confirmed request.capabilities.length)
      return .confirmed
        { context := none
          capabilities := request.capabilities
          parameters := none }

/- A controller that answers as told. -/
def controller
    (identity : Identity)
    (features : List Controller.Feature)
    (answers : ControllerAnswers) : Controller Notebook :=
  { identity := identity
    features := features
    create := some fun request => do
      note (.create request)
      note (.created answers.create)
      return answers.create
    delete := some fun request => do
      note (.delete request)
      failIf .volumeInUse answers.deletionFault
    publish := some fun request => do
      note (.publish request)
      note (.published answers.publish)
      return answers.publish
    unpublish := some fun request => do
      note (.unpublish request)
      failIf .nodeMissing answers.unpublicationFault
    validate := verdict answers
    list := some fun request => do
      note (.list request)
      return answers.list
    expand := some fun request => do
      note (.expand request)
      note (.expanded answers.expand)
      return answers.expand
    get := some fun request => do
      note (.got request answers.get.1 answers.get.2)
      return answers.get }

/- The failure of a plugin that has no answer. -/
def noReply : Status :=
  .unavailable "no reply"

/- A controller that does no more than it has to. -/
def bareController
    (identity : Identity) : Controller Notebook :=
  { identity := identity
    validate := fun _ => .failed (.other noReply) }

------------------------------------------------------------
-- Nodes
------------------------------------------------------------

/- The answers of a node. -/
structure NodeAnswers where
  usage : VolumeStats.Report := ⟨[], none⟩
  expand : Option Nat := none
  info : Except String NodeInfo := .ok ⟨"", none, none⟩

/- A node that answers as told. -/
def node
    (identity : Identity)
    (features : List Node.Feature)
    (answers : NodeAnswers) : Node Notebook :=
  { identity := identity
    features := features
    stage := some fun request => note (.nodeStage request)
    unstage := some fun request => note (.nodeUnstage request)
    publish := fun request => note (.nodePublish request)
    unpublish := fun request => note (.nodeUnpublish request)
    usage := some fun request => do
      note (.usage request)
      note (.usageReport answers.usage)
      return answers.usage
    expand := some fun request => do
      note (.nodeExpand request)
      note (.nodeExpanded answers.expand)
      return answers.expand
    info := fun _ =>
      match answers.info with
      | .error detail => .failed (.unavailable detail)
      | .ok info => do
          note (.info info)
          return info }

/- A node that does no more than it has to. -/
def bareNode
    (identity : Identity) : Node Notebook :=
  { identity := identity
    publish := fun _ => .failed (.other noReply)
    unpublish := fun _ => .failed (.other noReply)
    info := fun _ => .failed (.other noReply) }

end Memory

end BlockVolumes
