import BlockVolumes.Rpc.Status

/-
  Volume sizes: binary units, the range of sizes that a
  request allows, the sizes that the backend offers, and the
  whole number of GiB that satisfies both.

  Key definitions include:
    * `Capacity.describe`
    * `Capacity.gibRoundedUp`
    * `Capacity.Limits`
    * `Capacity.Range`
    * `Capacity.requestedBytes`
    * `Capacity.allocate`
-/

namespace BlockVolumes

namespace Capacity

------------------------------------------------------------
-- Units
------------------------------------------------------------

def kib : Nat := 1024

def mib : Nat := 1024 * kib

def gib : Nat := 1024 * mib

def tib : Nat := 1024 * gib

/- The units with a sign of their own, from large to small. -/
def units : List (Nat × String) :=
  [(tib, "Ti"), (gib, "Gi"), (mib, "Mi"), (kib, "Ki")]

/-
  A number of bytes in the largest unit that divides it.
-/
def describe
    (bytes : Nat) : String :=
  if bytes = 0 then "0"
  else
    match units.find? fun unit => bytes % unit.1 == 0 with
    | some (size, sign) => toString (bytes / size) ++ sign
    | none => toString bytes

/- The number of GiB that covers a number of bytes. -/
def gibRoundedUp
    (bytes : Nat) : Nat :=
  (bytes + gib - 1) / gib

------------------------------------------------------------
-- Limits and Ranges
------------------------------------------------------------

/-
  The sizes that the backend offers, and the size of a volume
  for which none is asked, in bytes.
-/
structure Limits where
  minimum : Nat
  maximum : Nat
  standard : Nat
  deriving DecidableEq, Repr

/-
  The sizes that a request allows, in bytes. The two bounds
  of a range need not be in order.
-/
inductive Range where
  | atLeast (required : Nat)
  | atMost (limit : Nat)
  | between (required limit : Nat)
  deriving DecidableEq, Repr

namespace Range

/- The lower bound. -/
def required? : Range → Option Nat
  | atLeast required => some required
  | atMost _ => none
  | between required _ => some required

/- The upper bound. -/
def limit? : Range → Option Nat
  | atLeast _ => none
  | atMost limit => some limit
  | between _ limit => some limit

/- The range with the given bounds, if there is one at all. -/
def ofBounds :
    Option Nat → Option Nat → Option Range
  | some required, none => some (atLeast required)
  | none, some limit => some (atMost limit)
  | some required, some limit => some (between required limit)
  | none, none => none

/- The range as reports show it. -/
def describe : Range → String
  | atLeast required =>
      "AtLeast(" ++ toString required ++ ")"
  | atMost limit =>
      "AtMost(" ++ toString limit ++ ")"
  | between required limit =>
      "Between(" ++ toString required ++ ", " ++
        toString limit ++ ")"

end Range

------------------------------------------------------------
-- Refusals
------------------------------------------------------------

/- The bound of a range that a refusal speaks of. -/
inductive Bound where
  | required
  | limit
  deriving DecidableEq, Repr

/- The name of a bound in messages. -/
def Bound.name : Bound → String
  | required => "required_bytes"
  | limit => "limit_bytes"

/- Why no size satisfies a range and the limits. -/
inductive Refusal where
  | belowMinimum (bound : Bound) (value minimum : Nat)
  | aboveMaximum (bound : Bound) (value maximum : Nat)
  | limitBelowRequired (required limit : Nat)
  | noWholeGib (lower upper : Nat)
  deriving DecidableEq, Repr

namespace Refusal

/- The wording of a refusal. -/
def message : Refusal → String
  | belowMinimum bound value minimum =>
      bound.name ++ " " ++ Capacity.describe value ++
        " is less than the minimum supported size " ++
        Capacity.describe minimum
  | aboveMaximum bound value maximum =>
      bound.name ++ " " ++ Capacity.describe value ++
        " is greater than the maximum supported size " ++
        Capacity.describe maximum
  | limitBelowRequired required limit =>
      "limit_bytes " ++ Capacity.describe limit ++
        " is less than required_bytes " ++
        Capacity.describe required
  | noWholeGib lower upper =>
      "no whole GiB size lies between " ++
        Capacity.describe lower ++ " and " ++
        Capacity.describe upper

/-
  A range that contradicts itself is a wrong argument, one
  that the limits exclude is out of range.
-/
def code : Refusal → Rpc.Code
  | limitBelowRequired _ _ => .invalidArgument
  | _ => .outOfRange

/- The answer to a refused request. -/
def status
    (refusal : Refusal) : Rpc.Status :=
  ⟨refusal.code, refusal.message⟩

end Refusal

------------------------------------------------------------
-- Allocation
------------------------------------------------------------

/- Accepts a bound that lies within the limits. -/
def checkBound
    (limits : Limits)
    (bound : Bound)
    (value : Nat) : Except Refusal Nat :=
  if value < limits.minimum then
    .error (.belowMinimum bound value limits.minimum)
  else if limits.maximum < value then
    .error (.aboveMaximum bound value limits.maximum)
  else
    .ok value

/-
  The number of bytes that a request asks for: the lower bound
  if there is one, else the upper bound, else the standard
  size. Every given bound has to lie within the limits.
-/
def requestedBytes
    (limits : Limits) :
    Option Range → Except Refusal Nat
  | none => .ok limits.standard
  | some (.atLeast required) =>
      checkBound limits .required required
  | some (.atMost limit) =>
      checkBound limits .limit limit
  | some (.between required limit) =>
      if limit < required then
        .error (.limitBelowRequired required limit)
      else do
        let _ ← checkBound limits .limit limit
        checkBound limits .required required

/- The largest size that both the range and the limits allow. -/
def upperBound
    (limits : Limits)
    (range : Option Range) : Nat :=
  match range.bind Range.limit? with
  | some limit => min limit limits.maximum
  | none => limits.maximum

/- The smallest size that both the range and the limits allow. -/
def lowerBound
    (limits : Limits)
    (range : Option Range) : Nat :=
  match range.bind Range.required? with
  | some required => max required limits.minimum
  | none => limits.minimum

/-
  The size of a volume in GiB. Rounding up must not cross the
  upper bound; where it would, the size is rounded down, which
  must not cross the lower bound.
-/
def allocate
    (limits : Limits)
    (range : Option Range) : Except Refusal Nat := do
  let bytes ← requestedBytes limits range
  let upper := upperBound limits range
  let lower := lowerBound limits range
  let up := gibRoundedUp bytes
  let down := bytes / gib
  if up * gib ≤ upper then
    .ok up
  else if 0 < down ∧ lower ≤ down * gib then
    .ok down
  else
    .error (.noWholeGib lower upper)

end Capacity

end BlockVolumes
