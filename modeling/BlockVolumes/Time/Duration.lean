import BlockVolumes.Text.Shortest

/-
  Lengths of time in whole nanoseconds: reading them from
  seconds, stretching them by a factor, showing them, and
  counting them in the ticks of the timer. This timer is the
  one of tokio, on which the plugin runs; its resolution and
  its longest sleep are constants of that library.

  Key definitions include:
    * `Duration`
    * `Duration.ofSeconds?`
    * `Duration.scale?`
    * `Duration.describe`
    * `Duration.ticks`
    * `Duration.pause`
-/

namespace BlockVolumes

------------------------------------------------------------
-- Durations
------------------------------------------------------------

/-
  A length of time.
-/
structure Duration where
  nanoseconds : Nat
  deriving DecidableEq, Repr

namespace Duration

def nanosecondsPerSecond : Nat := 1000000000

/- A whole number of seconds. -/
def seconds
    (n : Nat) : Duration :=
  ⟨n * nanosecondsPerSecond⟩

/- A whole number of milliseconds. -/
def milliseconds
    (n : Nat) : Duration :=
  ⟨n * 1000000⟩

/- Durations of `2 ^ 64` seconds and more are not supported. -/
def limit : Nat :=
  Nat.pow 2 64 * nanosecondsPerSecond

/-
  The timer of tokio counts in milliseconds and never fires
  early, so a started millisecond counts as a whole one.
-/
def ticks
    (d : Duration) : Nat :=
  (d.nanoseconds + 999999) / 1000000

theorem ticks_milliseconds
    (n : Nat) :
    (milliseconds n).ticks = n := by
  simp only [ticks, milliseconds]
  omega

/-
  The timer of tokio takes no deadline more than thirty years
  ahead, and wakes up then.
-/
def longestPause : Nat :=
  30 * 365 * 24 * 60 * 60 * 1000

/- The ticks for which the timer really sleeps. -/
def pause
    (d : Duration) : Nat :=
  min d.ticks longestPause

/-
  The ticks after which a timeout of tokio is over. An end that
  the clock of the system cannot tell, as one `2 ^ 63` seconds
  from now, is put off by thirty years, as a sleep is.
-/
def span
    (d : Duration) : Nat :=
  if d.nanoseconds < Nat.pow 2 63 * nanosecondsPerSecond then d.ticks
  else longestPause

------------------------------------------------------------
-- Reading Seconds
------------------------------------------------------------

/-
  The quotient rounded to the nearest integer, a half to the
  even neighbour.
-/
def roundedQuotient
    (numerator denominator : Nat) : Nat :=
  let quotient := numerator / denominator
  let rest := numerator % denominator
  if 2 * rest < denominator then quotient
  else if 2 * rest = denominator then quotient + quotient % 2
  else quotient + 1

/-
  The given number of seconds to the nearest nanosecond, if
  it is finite, not negative and within the limit.
-/
def ofSeconds?
    (x : Float) : Option Duration :=
  match Text.Binary.ofFloat x with
  | none => none
  | some b =>
      let nanoseconds :=
        roundedQuotient
          (b.mantissa * Nat.pow 2 b.exponent * nanosecondsPerSecond)
          (Nat.pow 2 1074)
      if b.negative && b.mantissa != 0 then none
      else if nanoseconds < limit then some ⟨nanoseconds⟩
      else none

/- The nearest number of seconds, by way of the whole seconds. -/
def toSeconds
    (d : Duration) : Float :=
  (d.nanoseconds / nanosecondsPerSecond).toUInt64.toFloat +
    (d.nanoseconds % nanosecondsPerSecond).toUInt64.toFloat /
      nanosecondsPerSecond.toUInt64.toFloat

/- The duration multiplied by a factor, if that is a duration. -/
def scale?
    (d : Duration)
    (factor : Float) : Option Duration :=
  ofSeconds? (factor * d.toSeconds)

------------------------------------------------------------
-- Showing
------------------------------------------------------------

/-
  A whole part and a fraction of `width` digits, without the
  zeros that end the fraction.
-/
def decimal
    (whole fraction width : Nat) : String :=
  let digits :=
    (toString (Nat.pow 10 width + fraction)).toList.drop 1
  let kept := (digits.reverse.dropWhile (· == '0')).reverse
  if kept.isEmpty then toString whole
  else toString whole ++ "." ++ String.ofList kept

/-
  The duration in the largest unit of which it holds at least
  one, with all its digits.
-/
def describe
    (d : Duration) : String :=
  let n := d.nanoseconds
  if 1000000000 ≤ n then
    decimal (n / 1000000000) (n % 1000000000) 9 ++ "s"
  else if 1000000 ≤ n then
    decimal (n / 1000000) (n % 1000000) 6 ++ "ms"
  else if 1000 ≤ n then
    decimal (n / 1000) (n % 1000) 3 ++ "µs"
  else
    toString n ++ "ns"

end Duration

end BlockVolumes
