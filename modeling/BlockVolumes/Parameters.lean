import BlockVolumes.Rpc.Status
import BlockVolumes.Tags
import BlockVolumes.Text.Numeral

/-
  The parameters of a storage class: which keys there are,
  which values they take, and what they say about a volume.

  Key definitions include:
    * `ChargeType`
    * `PerformanceLevel`
    * `Parameters`
    * `Parameters.Fault`
    * `Parameters.parse`
    * `Parameters.classKey`
-/

namespace BlockVolumes

------------------------------------------------------------
-- Charge Types
------------------------------------------------------------

/- How a volume is paid for. -/
inductive ChargeType where
  | year
  | month
  | dynamic
  | postpay
  deriving DecidableEq, Repr

namespace ChargeType

/- The name of a charge type in backend requests. -/
def name : ChargeType → String
  | year => "Year"
  | month => "Month"
  | dynamic => "Dynamic"
  | postpay => "Postpay"

/- The charge type of a name in letters of either case. -/
def parse?
    (raw : String) : Option ChargeType :=
  match Text.lowerAscii raw with
  | "year" => some year
  | "month" => some month
  | "dynamic" => some dynamic
  | "postpay" => some postpay
  | _ => none

end ChargeType

------------------------------------------------------------
-- Performance Levels
------------------------------------------------------------

/- The performance classes of a disk type. -/
inductive PerformanceLevel where
  | pl0
  | pl1
  | pl2
  | pl3
  deriving DecidableEq, Repr

namespace PerformanceLevel

/- The name of a level in backend requests. -/
def name : PerformanceLevel → String
  | pl0 => "PL0"
  | pl1 => "PL1"
  | pl2 => "PL2"
  | pl3 => "PL3"

/- The level of a name in letters of either case. -/
def parse?
    (raw : String) : Option PerformanceLevel :=
  match Text.upperAscii raw with
  | "PL0" => some pl0
  | "PL1" => some pl1
  | "PL2" => some pl2
  | "PL3" => some pl3
  | _ => none

end PerformanceLevel

------------------------------------------------------------
-- Parameters
------------------------------------------------------------

/-
  What the parameters of a storage class ask for. Disk types
  are in order of preference.
-/
structure Parameters where
  diskTypes : List String
  chargeType : Option ChargeType := none
  zone : Option String := none
  projectId : Option String := none
  tags : Dictionary := []
  purchaseTime : Option Nat := none
  performanceLevel : Option PerformanceLevel := none
  deriving DecidableEq, Repr

namespace Parameters

/- The keys with a meaning. -/
inductive Key where
  | diskType
  | chargeType
  | zone
  | projectId
  | tags
  | purchaseTime
  | performanceLevel
  deriving DecidableEq, Repr

namespace Key

/- The spelling of a key. -/
def name : Key → String
  | diskType => "type"
  | chargeType => "chargetype"
  | zone => "zone"
  | projectId => "projectid"
  | tags => "tags"
  | purchaseTime => "purchasetime"
  | performanceLevel => "performanceLevel"

def all : List Key :=
  [diskType, chargeType, zone, projectId, tags, purchaseTime,
    performanceLevel]

/- The key of a spelling. -/
def ofName?
    (s : String) : Option Key :=
  all.find? fun key => key.name == s

/- What a value of the key has to be. -/
def expectation : Key → String
  | diskType => "expected a comma separated list of disk types"
  | chargeType =>
      "expected one of year, month, dynamic or postpay"
  | zone => "must not be empty"
  | projectId => "must not be empty"
  | tags => ""
  | purchaseTime => "expected a positive integer"
  | performanceLevel => "expected one of PL0, PL1, PL2 or PL3"

end Key

/-
  Keys that the provisioner adds on its own start like this.
  They carry no meaning for a volume.
-/
def sidecarStart : String := "csi.storage.k8s.io/"

/- Whether a key was added by the provisioner. -/
def isSidecarKey
    (key : String) : Bool :=
  sidecarStart.isPrefixOf key

/- Why parameters are not accepted. -/
inductive Fault where
  | unknownKey (key : String)
  | invalid (key : Key) (value : String)
  deriving DecidableEq, Repr

namespace Fault

/- The wording of a fault. -/
def message : Fault → String
  | unknownKey key => "Unknown volume parameter '" ++ key ++ "'"
  | invalid key value =>
      "Invalid value '" ++ value ++ "' for volume parameter '" ++
        key.name ++ "': " ++ key.expectation

/- The answer to a request with wrong parameters. -/
def status
    (fault : Fault) : Rpc.Status :=
  .invalidArgument fault.message

end Fault

/- The disk types of a list between commas. -/
def splitTypes
    (raw : String) : List String :=
  ((Text.splitAtEvery ',' raw).map fun piece =>
    Text.lowerAscii (Text.trim piece)).filter (! ·.isEmpty)

/- A trimmed value that must not be empty. -/
def requireText
    (key : Key)
    (value : String) : Except Fault String :=
  let trimmed := Text.trim value
  if trimmed.isEmpty then .error (.invalid key trimmed)
  else .ok trimmed

/-
  A value that the reading of the key has to accept.
-/
def requireValue
    {α : Type}
    (key : Key)
    (value : String) :
    Option α → Except Fault α
  | some a => .ok a
  | none => .error (.invalid key value)

/- A positive number of 32 bits. -/
def positive?
    (raw : String) : Option Nat :=
  match Text.readNatural (UInt32.size - 1) (Text.trim raw) with
  | .ok 0 => none
  | .ok n => some n
  | .error _ => none

/- The parameters with the value of one key read into them. -/
def set
    (parameters : Parameters)
    (key : Key)
    (value : String) : Except Fault Parameters :=
  match key with
  | .diskType =>
      match splitTypes value with
      | [] => .error (.invalid .diskType value)
      | types => .ok { parameters with diskTypes := types }
  | .chargeType => do
      let chargeType ←
        requireValue key value (ChargeType.parse? value)
      return { parameters with chargeType := some chargeType }
  | .zone => do
      return { parameters with zone := some (← requireText key value) }
  | .projectId => do
      return { parameters with
        projectId := some (← requireText key value) }
  | .tags => .ok { parameters with tags := Tags.parse value }
  | .purchaseTime => do
      let time ← requireValue key value (positive? value)
      return { parameters with purchaseTime := some time }
  | .performanceLevel => do
      let level ←
        requireValue key value (PerformanceLevel.parse? value)
      return { parameters with performanceLevel := some level }

/- The parameters with one entry read into them. -/
def readEntry
    (parameters : Parameters)
    (entry : String × String) : Except Fault Parameters :=
  match Key.ofName? entry.1 with
  | some key => parameters.set key entry.2
  | none =>
      if isSidecarKey entry.1 then .ok parameters
      else .error (.unknownKey entry.1)

/-
  What the entries of a map ask for. Without an entry for the
  disk type there is one standard type.
-/
def parse
    (standardType : String)
    (entries : Dictionary) : Except Fault Parameters :=
  entries.foldlM readEntry { diskTypes := [standardType] }

/- The name of the storage class in zone scheduling. -/
def classKey
    (parameters : Parameters) : String :=
  ",".intercalate parameters.diskTypes

end Parameters

end BlockVolumes
