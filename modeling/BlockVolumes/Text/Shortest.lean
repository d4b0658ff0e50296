/-
  Binary floating point numbers as exact fractions, and the
  shortest decimal that reads back as such a number.

  Key definitions include:
    * `Text.Binary`
    * `Text.Binary.ofFloat`
    * `Text.Binary.shortest`
    * `Text.positional`
-/

namespace BlockVolumes

namespace Text

/-
  The finite number `mantissa * 2 ^ (exponent - 1074)` of
  the given sign.
-/
structure Binary where
  negative : Bool
  mantissa : Nat
  exponent : Nat
  deriving DecidableEq, Repr

namespace Binary

/- The number a float holds, if it is finite. -/
def ofFloat
    (x : Float) : Option Binary :=
  let bits := x.toBits.toNat
  let fraction := bits % Nat.pow 2 52
  let power := bits / Nat.pow 2 52 % Nat.pow 2 11
  let negative := decide (Nat.pow 2 63 ≤ bits)
  if power = 2047 then none
  else if power = 0 then some ⟨negative, fraction, 0⟩
  else some ⟨negative, Nat.pow 2 52 + fraction, power - 1⟩

/- Whether the gap below is half as wide as the gap above. -/
def atPowerOfTwo
    (x : Binary) : Bool :=
  x.mantissa == Nat.pow 2 52 && x.exponent != 0

/-
  Whether `digits * 10 ^ (scale - 400)` rounds to the number:
  it lies within half a gap, ends included when the mantissa
  is even.
-/
def isReadFrom
    (x : Binary)
    (digits : Nat)
    (scale : Nat) : Bool :=
  -- Everything is multiplied by `2 ^ 1076 * 10 ^ 400`.
  let value := digits * Nat.pow 10 scale * Nat.pow 2 1076
  let unit := Nat.pow 2 x.exponent * Nat.pow 10 400
  let center := 4 * x.mantissa * unit
  let high := center + 2 * unit
  let low :=
    center - (if x.atPowerOfTwo then unit else 2 * unit)
  if x.mantissa % 2 = 0 then
    decide (low ≤ value) && decide (value ≤ high)
  else
    decide (low < value) && decide (value < high)

/- The number as the multiple of `10 ^ (scale - 400)` below it. -/
def floorAt
    (x : Binary)
    (scale : Nat) : Nat :=
  x.mantissa * Nat.pow 2 x.exponent * Nat.pow 10 400 /
    (Nat.pow 2 1074 * Nat.pow 10 scale)

/-
  Of the two neighbours on a decimal grid that round to the
  number, the nearer one, and the lower one of a tie.
-/
def nearestAt
    (x : Binary)
    (scale : Nat) : Option Nat :=
  let low := x.floorAt scale
  let center :=
    2 * x.mantissa * Nat.pow 2 x.exponent * Nat.pow 10 400
  let middle := (2 * low + 1) * Nat.pow 10 scale * Nat.pow 2 1074
  match x.isReadFrom low scale, x.isReadFrom (low + 1) scale with
  | true, true =>
      some (if center ≤ middle then low else low + 1)
  | true, false => some low
  | false, true => some (low + 1)
  | false, false => none

/- The number of decimal digits before the point, plus 400. -/
def magnitude
    (x : Binary) : Nat :=
  (Nat.toDigits 10
    (x.mantissa * Nat.pow 2 x.exponent * Nat.pow 10 400 /
      Nat.pow 2 1074)).length

/-
  Digits and scale of the shortest decimal that rounds to the
  number: grids of one digit, of two digits and so on are
  tried, and seventeen digits always suffice.
-/
def shortest
    (x : Binary) : Nat × Nat :=
  if x.mantissa = 0 then (0, 400)
  else
    let top := x.magnitude
    ((List.range 17).findSome? fun n =>
      let scale := top - (n + 1)
      (x.nearestAt scale).map fun digits => (digits, scale)).getD
      (0, 400)

end Binary

/-
  The decimal `digits * 10 ^ (scale - 400)` without exponent,
  with as few zeros as that allows.
-/
def positional
    (digits : Nat)
    (scale : Nat) : String :=
  if 400 ≤ scale then
    toString (digits * Nat.pow 10 (scale - 400))
  else
    let places := 400 - scale
    let unit := Nat.pow 10 places
    let whole := digits / unit
    let fraction :=
      String.ofList
        ((toString (unit + digits % unit)).toList.drop 1)
    let trimmed :=
      (fraction.toList.reverse.dropWhile (· == '0')).reverse
    if trimmed.isEmpty then toString whole
    else toString whole ++ "." ++ String.ofList trimmed

/- A float as the shortest positional decimal that reads back. -/
def ofFloat
    (x : Float) : String :=
  match Binary.ofFloat x with
  | none => if x.isNaN then "NaN" else if x < 0 then "-inf" else "inf"
  | some b =>
      let (digits, scale) := b.shortest
      (if b.negative then "-" else "") ++ positional digits scale

end Text

end BlockVolumes
