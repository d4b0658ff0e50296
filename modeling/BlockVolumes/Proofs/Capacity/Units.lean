import BlockVolumes.Capacity
import BlockVolumes.Proofs.Text.Numerals

/-
  Sizes in units. A size is written as a numeral with the sign
  of the largest unit that divides it. Nothing is rounded, so
  that the size can be read back from what is written.

  Key definitions include:
    * `Capacity.scales`
    * `Capacity.read?`

  Key theorems include:
    * `Capacity.exists_largest_scale`
    * `Capacity.exists_describe_eq`
    * `Capacity.read?_numeral`
    * `Capacity.describe_exact`
-/

namespace BlockVolumes

namespace Capacity

variable {bytes count : Nat}
variable {unit larger : Nat × String}

------------------------------------------------------------
-- All Units
------------------------------------------------------------

/- All units, from large to small. Bytes have no sign. -/
def scales : List (Nat × String) :=
  [(1024 * 1024 * 1024 * 1024, "Ti"), (1024 * 1024 * 1024, "Gi"),
    (1024 * 1024, "Mi"), (1024, "Ki"), (1, "")]

/- All of them but bytes have a sign of their own. -/
theorem scales_eq :
    scales = units ++ [(1, "")] := by
  decide

theorem scales_descending :
    scales.Pairwise fun first second => second.1 < first.1 := by
  decide

/- The sign of a unit does not begin with a digit. -/
theorem takeWhile_isDigit_sign
    (h : unit ∈ scales) :
    unit.2.toList.takeWhile Char.isDigit = [] := by
  revert unit
  decide

/- No two units have the same sign. -/
theorem find?_sign
    (h : unit ∈ scales) :
    (scales.find? fun other => other.2 == unit.2) = some unit := by
  revert unit
  decide

/- A unit that stands after another one is smaller. -/
theorem mem_of_larger
    {before after : List (Nat × String)}
    (hScales : scales = before ++ unit :: after)
    (hMem : larger ∈ scales)
    (hLarger : unit.1 < larger.1) :
    larger ∈ before := by
  have hOrder := scales_descending
  rw [hScales, List.pairwise_append, List.pairwise_cons] at hOrder
  rw [hScales, List.mem_append, List.mem_cons] at hMem
  rcases hMem with hBefore | rfl | hAfter
  · exact hBefore
  · exact absurd hLarger (Nat.lt_irrefl _)
  · exact absurd hLarger
      (Nat.lt_asymm (hOrder.2.1.1 larger hAfter))

------------------------------------------------------------
-- Writing
------------------------------------------------------------

/- The first unit that divides a size is the largest one. -/
theorem exists_largest_scale
    (bytes : Nat) :
    ∃ unit ∈ scales,
      scales.find? (fun other => bytes % other.1 == 0) =
          some unit ∧
        unit.1 ∣ bytes ∧
        ∀ larger ∈ scales, unit.1 < larger.1 →
          ¬ larger.1 ∣ bytes := by
  have hSome :
      (scales.find? fun other => bytes % other.1 == 0).isSome := by
    rw [List.find?_isSome]
    exact ⟨(1, ""), by decide, by simp [Nat.mod_one]⟩
  rcases Option.isSome_iff_exists.mp hSome with ⟨unit, hFind⟩
  rcases List.find?_eq_some_iff_append.mp hFind with
    ⟨hDivides, before, after, hScales, hBefore⟩
  refine ⟨unit, List.mem_of_find?_eq_some hFind, hFind,
    Nat.dvd_of_mod_eq_zero (beq_iff_eq.mp hDivides), ?_⟩
  intro larger hMem hLarger hOther
  have hNot :=
    hBefore larger (mem_of_larger hScales hMem hLarger)
  simp [Nat.mod_eq_zero_of_dvd hOther] at hNot

/- The unit of a size is looked for among all of them. -/
theorem describe_of_find?
    (hSome : bytes ≠ 0)
    (hFind :
      scales.find? (fun other => bytes % other.1 == 0) =
        some unit) :
    describe bytes = toString (bytes / unit.1) ++ unit.2 := by
  rw [describe, if_neg hSome]
  rw [scales_eq, List.find?_append] at hFind
  cases hUnit :
      units.find? fun other => bytes % other.1 == 0 with
  | some found =>
      rw [hUnit, Option.some_or, Option.some.injEq] at hFind
      rw [hFind]
  | none =>
      rw [hUnit, Option.none_or, List.find?_singleton,
        if_pos (by simp [Nat.mod_one]), Option.some.injEq] at hFind
      rw [← hFind, Nat.div_one, String.append_empty]

/- A size is written in the largest unit that divides it. -/
theorem exists_describe_eq
    (bytes : Nat) :
    ∃ count, ∃ unit ∈ scales,
      describe bytes = toString count ++ unit.2 ∧
        count * unit.1 = bytes ∧
        (bytes ≠ 0 → ∀ larger ∈ scales, unit.1 < larger.1 →
          ¬ larger.1 ∣ bytes) := by
  by_cases hNone : bytes = 0
  · subst hNone
    exact ⟨0, (1, ""), by decide, rfl, rfl, absurd rfl⟩
  · rcases exists_largest_scale bytes with
      ⟨unit, hMem, hFind, hDivides, hLargest⟩
    exact ⟨bytes / unit.1, unit, hMem,
      describe_of_find? hNone hFind, Nat.div_mul_cancel hDivides,
      fun _ => hLargest⟩

------------------------------------------------------------
-- Reading
------------------------------------------------------------

/- The size that a numeral with the sign of a unit stands for. -/
def read?
    (text : String) : Option Nat :=
  let digits := text.toList.takeWhile Char.isDigit
  let sign := String.ofList (text.toList.dropWhile Char.isDigit)
  if digits.isEmpty then none
  else
    (scales.find? fun unit => unit.2 == sign).map fun unit =>
      Nat.ofDigitChars 10 digits 0 * unit.1

/- Where the digits end the sign begins. -/
theorem takeWhile_isDigit_numeral
    (h : unit ∈ scales)
    (count : Nat) :
    (toString count ++ unit.2).toList.takeWhile Char.isDigit =
      (toString count).toList := by
  rw [String.toList_append,
    List.takeWhile_append_of_pos (Text.isDigits_toString count).digits,
    takeWhile_isDigit_sign h, List.append_nil]

/- A numeral with a sign is read as so many of the unit. -/
theorem read?_numeral
    (h : unit ∈ scales)
    (count : Nat) :
    read? (toString count ++ unit.2) = some (count * unit.1) := by
  have hDigits := Text.isDigits_toString count
  have hSign :
      (toString count ++ unit.2).toList.dropWhile Char.isDigit =
        unit.2.toList := by
    have hAll :=
      List.takeWhile_append_dropWhile (p := Char.isDigit)
        (l := (toString count ++ unit.2).toList)
    rw [takeWhile_isDigit_numeral h, String.toList_append,
      List.append_right_inj] at hAll
    rw [String.toList_append, hAll]
  have hSome : ¬ (toString count).toList.isEmpty = true := by
    rw [List.isEmpty_iff]
    exact hDigits.nonempty
  rw [read?]
  simp only [takeWhile_isDigit_numeral h, hSign, String.ofList_toList,
    if_neg hSome, find?_sign h, hDigits.value, Option.map_some]

/-
  A size of any number of bits is written exactly, as a numeral
  with the sign of the largest unit that divides it. It is read
  back from what is written, so that no other size is written
  in the same way.
-/
theorem describe_exact
    (bytes : Nat) :
    (∃ count, ∃ unit ∈ scales,
      describe bytes = toString count ++ unit.2 ∧
        count * unit.1 = bytes ∧
        (bytes ≠ 0 → ∀ larger ∈ scales, unit.1 < larger.1 →
          ¬ larger.1 ∣ bytes)) ∧
      read? (describe bytes) = some bytes ∧
      ∀ other, describe other = describe bytes →
        other = bytes := by
  have hRead : ∀ size, read? (describe size) = some size := by
    intro size
    rcases exists_describe_eq size with
      ⟨count, unit, hMem, hText, hExact, _⟩
    rw [hText, read?_numeral hMem, hExact]
  refine ⟨exists_describe_eq bytes, hRead bytes, ?_⟩
  intro other hSame
  rw [← Option.some.injEq, ← hRead other, hSame, hRead bytes]

/- A size between two units, and the unit above it. -/
theorem describe_exact_between_units :
    describe (mib + kib) = "1025Ki" ∧
      ¬ mib ∣ mib + kib ∧
      read? "1025Ki" = some (mib + kib) ∧
      describe mib ≠ "1025Ki" := by
  have hText : describe (mib + kib) = "1025Ki" := by
    decide +kernel
  rcases describe_exact (mib + kib) with ⟨_, hRead, hOnly⟩
  rw [hText] at hRead hOnly
  refine ⟨hText, ?_, hRead, ?_⟩
  · decide
  · intro hSame
    exact absurd (hOnly mib hSame) (by decide)

end Capacity

end BlockVolumes
