import BlockVolumes.Files.Path
import BlockVolumes.Rpc.Status

/-
  Single fields of messages: numbers of 64 bits with a sign,
  texts that must not be empty, and paths from the root.

  Key definitions include:
    * `Csi.signed64`
    * `Csi.nonzero`
    * `Csi.required`
    * `Csi.absolutePath`
-/

namespace BlockVolumes

namespace Csi

open Rpc (Status)

/- A number of 64 bits read with a sign. -/
def signed64
    (n : Nat) : Int :=
  Int.bmod n UInt64.size

/- Numbers below `2 ^ 63` keep their value. -/
theorem signed64_eq_self
    {n : Nat}
    (h : n < Nat.pow 2 63) :
    signed64 n = n := by
  have hSmall : n < 2 ^ 63 := h
  unfold signed64 UInt64.size
  rw [Int.bmod_eq_of_le] <;> omega

/- No other numbers do. -/
theorem signed64_eq_self_iff
    {n : Nat} :
    signed64 n = n ↔ n < Nat.pow 2 63 := by
  have hHalf : Nat.pow 2 63 = 9223372036854775808 := rfl
  have hHigh : signed64 n < 9223372036854775808 :=
    Int.bmod_lt (by decide)
  constructor
  · intro hExact
    omega
  · exact signed64_eq_self

/- In messages, zero stands for a number that is not given. -/
def nonzero
    (n : Nat) : Option Nat :=
  if n = 0 then none else some n

/- A text that must not be empty. -/
def required
    (value complaint : String) : Except Status String :=
  if value.isEmpty then .error (.invalidArgument complaint)
  else .ok value

/- A path that must be there and start at the root. -/
def absolutePath
    (value field : String) : Except Status Path := do
  let value ← required value (field ++ " is empty")
  if (Path.mk value).isAbsolute then .ok ⟨value⟩
  else .error (.invalidArgument (field ++ " is not absolute"))

/- A path that starts at the root if it is there at all. -/
def optionalAbsolutePath
    (value field : String) : Except Status (Option Path) :=
  if value.isEmpty then .ok none
  else (absolutePath value field).map some

end Csi

end BlockVolumes
