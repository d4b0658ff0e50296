import BlockVolumes.Csi.Capability
import BlockVolumes.Csi.Volume

/-
  Requests that look at volumes: whether a volume can be used
  in some ways, all volumes, and a single one.

  Key definitions include:
    * `Csi.ValidateCapabilities.Request.ofMessage`
    * `Csi.ValidateCapabilities.Verdict`
    * `Csi.ListVolumes.Request.ofMessage`
    * `Csi.GetVolume.Request.check`
-/

namespace BlockVolumes

namespace Csi

open Rpc (Status)

------------------------------------------------------------
-- Validating Capabilities
------------------------------------------------------------

namespace ValidateCapabilities

/- A question about capabilities as messages carry it. -/
structure Message where
  volumeId : String := ""
  context : Dictionary := []
  capabilities : List CapabilityMessage := []
  parameters : Dictionary := []
  secrets : Dictionary := []
  deriving DecidableEq, Repr

/- The question whether a volume has all the capabilities. -/
structure Request where
  volumeId : String
  context : Dictionary
  capabilities : List Capability
  parameters : Dictionary
  secrets : Dictionary
  deriving DecidableEq, Repr

/- Reads a request; the first wrong field is reported. -/
def Request.ofMessage
    (message : Message) : Except Status Request := do
  let volumeId ←
    required message.volumeId
      "ValidateVolumeCapabilitiesRequest.volume_id is empty"
  let capabilities ←
    if message.capabilities.isEmpty then
      .error (.invalidArgument
        ("Missing ValidateVolumeCapabilitiesRequest." ++
          "volume_capabilities"))
    else
      Capability.ofMessages message.capabilities
  return {
    volumeId := volumeId
    context := message.context
    capabilities := capabilities
    parameters := message.parameters
    secrets := message.secrets }

/- What was found to hold of a volume. -/
structure Confirmation where
  context : Option Dictionary
  capabilities : List Capability
  parameters : Option Dictionary
  deriving DecidableEq, Repr

/- The outcome: all is confirmed, or there is a reason why not. -/
inductive Verdict where
  | confirmed (confirmation : Confirmation)
  | unconfirmed (reason : String)
  deriving DecidableEq, Repr

/- A confirmation as messages carry it. -/
structure ConfirmationMessage where
  context : Dictionary
  capabilities : List CapabilityMessage
  parameters : Dictionary
  deriving DecidableEq, Repr

/- An outcome as messages carry it. -/
structure Answer where
  confirmed : Option ConfirmationMessage
  message : String
  deriving DecidableEq, Repr

/- Writes an outcome. -/
def Verdict.toAnswer : Verdict → Answer
  | confirmed confirmation =>
      { confirmed := some
          { context := confirmation.context.getD []
            capabilities :=
              confirmation.capabilities.map Capability.toMessage
            parameters := confirmation.parameters.getD [] }
        message := "" }
  | unconfirmed reason =>
      { confirmed := none, message := reason }

/- How the question fails. -/
inductive Error where
  | volumeMissing (detail : String)
  | other (status : Status)
  deriving DecidableEq, Repr

namespace Error

/- The wording of an error in reports. -/
def display? : Error → Option String
  | volumeMissing detail =>
      some ("Volume does not exist: " ++ detail)
  | other _ => none

/- The answer to a failed request. -/
def status : Error → Status
  | volumeMissing detail => .notFound detail
  | other status => status

end Error

end ValidateCapabilities

------------------------------------------------------------
-- Listing
------------------------------------------------------------

namespace ListVolumes

/- A request for all volumes as messages carry it. -/
structure Message where
  maxEntries : Int := 0
  startingToken : String := ""
  deriving DecidableEq, Repr

/- A request for all volumes, or for a page of them. -/
structure Request where
  maxEntries : Option Nat
  startingToken : Option String
  deriving DecidableEq, Repr

/- Reads a request; zero and the empty token mean no paging. -/
def Request.ofMessage
    (message : Message) : Except Status Request :=
  if message.maxEntries < 0 then
    .error (.invalidArgument
      "ListVolumesRequest.max_entries was less than 0")
  else
    .ok
      { maxEntries := nonzero message.maxEntries.toNat
        startingToken :=
          if message.startingToken.isEmpty then none
          else some message.startingToken }

/- A volume of the list. -/
structure Entry where
  volume : Volume
  state : Option VolumeState
  deriving DecidableEq, Repr

/- How the request fails. -/
inductive Error where
  | invalidToken (detail : String)
  | noPaging
  | other (status : Status)
  deriving DecidableEq, Repr

namespace Error

/- The wording of an error in reports. -/
def display? : Error → Option String
  | invalidToken detail =>
      some ("Invalid `starting_token`: " ++ detail)
  | noPaging => some "Paginated listing is not supported"
  | other _ => none

/- The answer to a failed request, with the whole wording. -/
def status
    (error : Error) : Status :=
  match error with
  | invalidToken _ => ⟨.aborted, error.display?.getD ""⟩
  | noPaging => ⟨.unimplemented, error.display?.getD ""⟩
  | other status => status

end Error

end ListVolumes

------------------------------------------------------------
-- Getting
------------------------------------------------------------

namespace GetVolume

/- A request for one volume. -/
structure Request where
  volumeId : String := ""
  deriving DecidableEq, Repr

/- Accepts a request that names a volume. -/
def Request.check
    (request : Request) : Except Status Request := do
  let _ ←
    required request.volumeId
      "ControllerGetVolumeRequest.volume_id is empty"
  return request

/- How the request fails. -/
inductive Error where
  | volumeMissing (detail : String)
  | other (status : Status)
  deriving DecidableEq, Repr

namespace Error

/- The wording of an error in reports. -/
def display? : Error → Option String
  | volumeMissing detail =>
      some ("Volume does not exist: " ++ detail)
  | other _ => none

/- The answer to a failed request. -/
def status : Error → Status
  | volumeMissing detail => .notFound detail
  | other status => status

end Error

end GetVolume

end Csi

end BlockVolumes
