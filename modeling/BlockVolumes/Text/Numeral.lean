/-
  Decimal numerals within a range, and the four ways in
  which a text fails to be one.

  Key definitions include:
    * `Text.NumeralError`
    * `Text.readNatural`
    * `Text.readInteger`
-/

namespace BlockVolumes

namespace Text

/-
  Why a text is no numeral of the wanted range.
-/
inductive NumeralError where
  | empty
  | invalidDigit
  | aboveRange
  | belowRange
  deriving DecidableEq, Repr

namespace NumeralError

/- The name under which reports show the cause. -/
def name : NumeralError → String
  | empty => "Empty"
  | invalidDigit => "InvalidDigit"
  | aboveRange => "PosOverflow"
  | belowRange => "NegOverflow"

/- The cause as reports show it. -/
def describe
    (error : NumeralError) : String :=
  "ParseIntError \x7b kind: " ++ error.name ++ " \x7d"

end NumeralError

/- The value of a decimal digit. -/
def digit?
    (c : Char) : Option Nat :=
  if c.isDigit then some (c.toNat - '0'.toNat) else none

/-
  Reads digits after those of `value`. The first fault in
  reading order decides: a character that is no digit, or a
  value above `limit`, reported as `overflow`.
-/
def readDigits
    (limit : Nat)
    (overflow : NumeralError) :
    Nat → List Char → Except NumeralError Nat
  | value, [] => .ok value
  | value, c :: cs =>
      match digit? c with
      | none => .error .invalidDigit
      | some d =>
          if limit < value * 10 + d then
            .error overflow
          else
            readDigits limit overflow (value * 10 + d) cs

/-
  A numeral of at most `limit`, with an optional plus sign.
-/
def readNatural
    (limit : Nat)
    (s : String) : Except NumeralError Nat :=
  match s.toList with
  | [] => .error .empty
  | ['+'] => .error .invalidDigit
  | '+' :: cs => readDigits limit .aboveRange 0 cs
  | cs => readDigits limit .aboveRange 0 cs

/-
  A numeral from `-limit - 1` to `limit`, with an optional
  sign.
-/
def readInteger
    (limit : Nat)
    (s : String) : Except NumeralError Int :=
  match s.toList with
  | [] => .error .empty
  | ['+'] => .error .invalidDigit
  | ['-'] => .error .invalidDigit
  | '+' :: cs =>
      (readDigits limit .aboveRange 0 cs).map Int.ofNat
  | '-' :: cs =>
      (readDigits (limit + 1) .belowRange 0 cs).map
        fun n => -Int.ofNat n
  | cs => (readDigits limit .aboveRange 0 cs).map Int.ofNat

end Text

end BlockVolumes
