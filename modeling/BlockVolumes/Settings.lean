import BlockVolumes.Capacity
import BlockVolumes.Pattern
import BlockVolumes.Time.Duration

/-
  What the driver has to know about its surroundings, the
  standard values, and which settings it accepts.

  Key definitions include:
    * `Polling`
    * `Backoff`
    * `Backoff.delay?`
    * `Settings`
    * `Settings.Fault`
    * `Settings.validate`
-/

namespace BlockVolumes

------------------------------------------------------------
-- Polling and Retrying
------------------------------------------------------------

/- How often and how long the state of a volume is polled. -/
structure Polling where
  interval : Duration := .seconds 1
  timeout : Duration := .seconds 60
  deriving DecidableEq, Repr

/- How often and how slowly a failed request is repeated. -/
structure Backoff where
  initial : Duration := .milliseconds 500
  factor : Float := 2.0
  steps : Nat := 5
  deriving Repr

namespace Backoff

/-
  A power of a float by repeated squaring, from the lowest
  binary digit of the exponent on. The fuel is never used up
  when it is the number of digits of the exponent.
-/
def powerFrom
    (result base : Float) :
    Nat → Nat → Float
  | 0, _ => result
  | fuel + 1, exponent =>
      let result :=
        if exponent % 2 = 1 then result * base else result
      if exponent / 2 = 0 then result
      else powerFrom result (base * base) fuel (exponent / 2)

/-
  A power of a float. A negative exponent gives the inverse
  of the positive power.
-/
def power
    (base : Float)
    (exponent : Int) : Float :=
  let p := powerFrom 1.0 base 32 exponent.natAbs
  if exponent < 0 then 1.0 / p else p

/- A number of 32 bits read with a sign. -/
def signed32
    (n : Nat) : Int :=
  Int.bmod n UInt32.size

/-
  The pause after a failed attempt, counted from zero. The
  factor is at least one. There is no pause of that length
  where the result is no duration.
-/
def delay?
    (backoff : Backoff)
    (attempt : Nat) : Option Duration :=
  let factor := if 1.0 < backoff.factor then backoff.factor else 1.0
  backoff.initial.scale? (power factor (signed32 attempt))

end Backoff

------------------------------------------------------------
-- Settings
------------------------------------------------------------

/-
  The settings of both services.
-/
structure Settings where
  -- What the plugin calls itself.
  name : String := "blockdisk.csi.io"
  version : String := "0.1.0"
  region : String := ""
  zone : Option String := none
  projectId : Option String := none
  -- The backend instance on which this process runs.
  nodeId : String := ""
  -- The name of this node in the cluster directory.
  nodeName : String := ""
  -- The role of the nodes that may receive volumes.
  nodeRole : String := "node"
  diskType : String := "cloud_ssd"
  filesystem : String := "ext4"
  -- Disk types that show up as devices of their own kind.
  premiumDiskTypes : String := "^(rssd|essd)"
  capacity : Capacity.Limits :=
    ⟨Capacity.gib, 8000 * Capacity.gib, 10 * Capacity.gib⟩
  expansionEnabled : Bool := true
  volumesPerNode : Nat := 16
  polling : Polling := {}
  attachSettle : Duration := .seconds 1
  deviceSettle : Duration := .seconds 1
  -- How young a surplus volume has to be to be removed.
  duplicateWindow : Duration := .seconds 60
  registration : Backoff := {}
  deriving Repr

namespace Settings

/- Why settings are not accepted. -/
inductive Fault where
  | emptyName
  | standardCapacityOutOfRange (limits : Capacity.Limits)
  | zeroPollInterval
  | pollIntervalTooLong (polling : Polling)
  | invalidPattern
  deriving DecidableEq, Repr

/- The wording of a fault. -/
def Fault.message : Fault → String
  | emptyName => "Driver name must not be empty"
  | standardCapacityOutOfRange limits =>
      "Default capacity " ++
        Capacity.describe limits.standard ++
        " must lie between " ++
        Capacity.describe limits.minimum ++ " and " ++
        Capacity.describe limits.maximum
  | zeroPollInterval =>
      "Poll interval must be greater than zero"
  | pollIntervalTooLong polling =>
      "Poll interval " ++ polling.interval.describe ++
        " must be shorter than the wait timeout " ++
        polling.timeout.describe
  | invalidPattern => "Invalid premium disk type pattern"

/-
  Accepts settings, and gives the pattern of the premium disk
  types. The first fault in this order is reported.
-/
def validate
    (settings : Settings) : Except Fault Pattern :=
  let limits := settings.capacity
  let polling := settings.polling
  if settings.name.isEmpty then
    .error .emptyName
  else if limits.standard < limits.minimum ∨
      limits.maximum < limits.standard then
    .error (.standardCapacityOutOfRange limits)
  else if polling.interval.nanoseconds = 0 then
    .error .zeroPollInterval
  else if polling.timeout.nanoseconds ≤
      polling.interval.nanoseconds then
    .error (.pollIntervalTooLong polling)
  else
    match Pattern.parse? settings.premiumDiskTypes with
    | some pattern => .ok pattern
    | none => .error .invalidPattern

end Settings

end BlockVolumes
