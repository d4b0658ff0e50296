import BlockVolumes.Document
import BlockVolumes.Settings

/-
  Reading settings from a document of named values. A field
  that is missing keeps its standard value, a name that is not
  known is ignored, and a value of the wrong type is an error.

  Key definitions include:
    * `Settings.ReadError`
    * `Settings.ofDocument`
-/

namespace BlockVolumes

namespace Settings

/- Why a document holds no settings. -/
inductive ReadError where
  | wrongType
  | notSeconds (value : Float)
  | tooManySeconds
  deriving Repr

/- The wording of an error, where it has one of its own. -/
def ReadError.message? : ReadError → Option String
  | notSeconds value =>
      some ("expected a non-negative number of seconds, got " ++
        Text.ofFloat value)
  | _ => none

------------------------------------------------------------
-- Single Values
------------------------------------------------------------

def readText : Document → Except ReadError String
  | .text s => .ok s
  | _ => .error .wrongType

def readOptionalText : Document → Except ReadError (Option String)
  | .null => .ok none
  | .text s => .ok (some s)
  | _ => .error .wrongType

def readBoolean : Document → Except ReadError Bool
  | .boolean b => .ok b
  | _ => .error .wrongType

/- A whole number below a bound. -/
def readBelow
    (bound : Nat) : Document → Except ReadError Nat
  | .integer n =>
      if 0 ≤ n ∧ n < bound then .ok n.toNat
      else .error .wrongType
  | _ => .error .wrongType

/- Any number, rounded to the nearest float. -/
def readFloat : Document → Except ReadError Float
  | .integer n => .ok (Float.ofInt n)
  | .decimal x => .ok x
  | _ => .error .wrongType

/- A length of time in seconds. -/
def readSeconds
    (document : Document) : Except ReadError Duration := do
  let x ← readFloat document
  if !x.isFinite || x < 0.0 then
    .error (.notSeconds x)
  else
    match Duration.ofSeconds? x with
    | some d => .ok d
    | none => .error .tooManySeconds

------------------------------------------------------------
-- Records
------------------------------------------------------------

/-
  How a field changes a record: its name, and the reading of
  its value.
-/
structure Field (α : Type) where
  name : String
  read : α → Document → Except ReadError α

/-
  Reads the values of a list into the fields in their order.
-/
def readInOrder
    {α : Type} :
    List (Field α) → List Document → α → Except ReadError α
  | _, [], value => .ok value
  | [], _ :: _, _ => .error .wrongType
  | field :: fields, item :: items, value => do
      readInOrder fields items (← field.read value item)

/-
  Reads a record field by field in the order of the document.
  A list is read as the values of the fields in their order.
-/
def readRecord
    {α : Type}
    (fields : List (Field α))
    (start : α) : Document → Except ReadError α
  | .record entries =>
      entries.foldlM
        (fun value entry =>
          match fields.find? fun f => f.name == entry.1 with
          | some field => field.read value entry.2
          | none => .ok value)
        start
  | .list items => readInOrder fields items start
  | _ => .error .wrongType

def capacityFields : List (Field Capacity.Limits) :=
  [⟨"min_bytes", fun limits d => do
      return { limits with minimum := ← readBelow UInt64.size d }⟩,
    ⟨"max_bytes", fun limits d => do
      return { limits with maximum := ← readBelow UInt64.size d }⟩,
    ⟨"default_bytes", fun limits d => do
      return { limits with standard := ← readBelow UInt64.size d }⟩]

def pollingFields : List (Field Polling) :=
  [⟨"poll_interval", fun polling d => do
      return { polling with interval := ← readSeconds d }⟩,
    ⟨"timeout", fun polling d => do
      return { polling with timeout := ← readSeconds d }⟩]

def backoffFields : List (Field Backoff) :=
  [⟨"initial", fun backoff d => do
      return { backoff with initial := ← readSeconds d }⟩,
    ⟨"factor", fun backoff d => do
      return { backoff with factor := ← readFloat d }⟩,
    ⟨"steps", fun backoff d => do
      return { backoff with steps := ← readBelow UInt32.size d }⟩]

/- Polling times from a document of their own. -/
def readPolling : Document → Except ReadError Polling :=
  readRecord pollingFields {}

/- A backoff from a document of its own. -/
def readBackoff : Document → Except ReadError Backoff :=
  readRecord backoffFields {}

/- Capacity limits from a document of their own. -/
def readLimits : Document → Except ReadError Capacity.Limits :=
  readRecord capacityFields ({} : Settings).capacity

def settingsFields : List (Field Settings) :=
  [⟨"name", fun s d => do
      return { s with name := ← readText d }⟩,
    ⟨"version", fun s d => do
      return { s with version := ← readText d }⟩,
    ⟨"region", fun s d => do
      return { s with region := ← readText d }⟩,
    ⟨"zone", fun s d => do
      return { s with zone := ← readOptionalText d }⟩,
    ⟨"project_id", fun s d => do
      return { s with projectId := ← readOptionalText d }⟩,
    ⟨"node_id", fun s d => do
      return { s with nodeId := ← readText d }⟩,
    ⟨"node_name", fun s d => do
      return { s with nodeName := ← readText d }⟩,
    ⟨"node_role", fun s d => do
      return { s with nodeRole := ← readText d }⟩,
    ⟨"default_disk_type", fun s d => do
      return { s with diskType := ← readText d }⟩,
    ⟨"default_fs_type", fun s d => do
      return { s with filesystem := ← readText d }⟩,
    ⟨"premium_disk_types", fun s d => do
      return { s with premiumDiskTypes := ← readText d }⟩,
    ⟨"capacity", fun s d => do
      return { s with capacity := ← readLimits d }⟩,
    ⟨"expand_enabled", fun s d => do
      return { s with expansionEnabled := ← readBoolean d }⟩,
    ⟨"max_volumes_per_node", fun s d => do
      return { s with volumesPerNode := ← readBelow UInt64.size d }⟩,
    ⟨"waiter", fun s d => do
      return { s with polling := ← readPolling d }⟩,
    ⟨"attach_settle_delay", fun s d => do
      return { s with attachSettle := ← readSeconds d }⟩,
    ⟨"udev_settle_delay", fun s d => do
      return { s with deviceSettle := ← readSeconds d }⟩,
    ⟨"duplicate_window", fun s d => do
      return { s with duplicateWindow := ← readSeconds d }⟩,
    ⟨"registration_backoff", fun s d => do
      return { s with registration := ← readBackoff d }⟩]

/-
  The settings that a document describes.
-/
def ofDocument : Document → Except ReadError Settings :=
  readRecord settingsFields {}

end Settings

end BlockVolumes
