import BlockVolumes.Text.Numeral
import Mathlib.Data.List.Basic

/-
  Which texts are numerals, and of which numbers. A numeral is
  read if its number is in the range, and the numeral that a
  number is written as is one of them.

  Key definitions include:
    * `Text.IsDigits`
    * `Text.IsNatural`
    * `Text.IsInteger`

  Key theorems include:
    * `Text.readDigits_eq_ok_iff`
    * `Text.readNatural_eq_ok_iff`
    * `Text.readInteger_eq_ok_iff`
    * `Text.readNatural_toString`
    * `Text.isInteger_toString`
-/

namespace BlockVolumes

namespace Text

variable {limit value n : Nat}
variable {overflow : NumeralError}
variable {cs : List Char}
variable {s : String}

------------------------------------------------------------
-- Numerals
------------------------------------------------------------

/- Whether characters are the decimal digits of a number. -/
structure IsDigits
    (cs : List Char)
    (n : Nat) : Prop where
  nonempty : cs ≠ []
  digits : ∀ c ∈ cs, c.isDigit = true
  value : Nat.ofDigitChars 10 cs 0 = n

/- Whether a text is a numeral of a number without a sign. -/
inductive IsNatural : String → Nat → Prop where
  | plain
      {s : String}
      {n : Nat}
      (hDigits : IsDigits s.toList n) :
      IsNatural s n
  | plus
      {s : String}
      {cs : List Char}
      {n : Nat}
      (hSign : s.toList = '+' :: cs)
      (hDigits : IsDigits cs n) :
      IsNatural s n

/- Whether a text is a numeral of a number with a sign. -/
inductive IsInteger : String → Int → Prop where
  | natural
      {s : String}
      {n : Nat}
      (hNatural : IsNatural s n) :
      IsInteger s n
  | minus
      {s : String}
      {cs : List Char}
      {n : Nat}
      (hSign : s.toList = '-' :: cs)
      (hDigits : IsDigits cs n) :
      IsInteger s (-n)

------------------------------------------------------------
-- Reading
------------------------------------------------------------

theorem digit?_eq_some_iff
    {c : Char}
    {d : Nat} :
    digit? c = some d ↔
      c.isDigit = true ∧ c.toNat - '0'.toNat = d := by
  unfold digit?
  split
  · next hDigit => simp [hDigit]
  · next hOther => simp [hOther]

/- More digits never make a number smaller. -/
theorem le_ofDigitChars
    (cs : List Char)
    (value : Nat) :
    value ≤ Nat.ofDigitChars 10 cs value := by
  induction cs generalizing value with
  | nil => simp
  | cons c cs ih =>
      rw [Nat.ofDigitChars_cons]
      have hNext := ih (10 * value + (c.toNat - '0'.toNat))
      omega

/-
  Digits are read if the whole number is in the range. As the
  number only grows, no part of it is above the range then.
-/
theorem readDigits_eq_ok_iff
    (hValue : value ≤ limit) :
    readDigits limit overflow value cs = .ok n ↔
      (∀ c ∈ cs, c.isDigit = true) ∧
        Nat.ofDigitChars 10 cs value = n ∧ n ≤ limit := by
  induction cs generalizing value with
  | nil =>
      simp only [readDigits, Except.ok.injEq, Nat.ofDigitChars_nil]
      constructor
      · rintro rfl
        exact ⟨nofun, rfl, hValue⟩
      · exact fun h => h.2.1
  | cons c cs ih =>
      rw [readDigits, List.forall_mem_cons, Nat.ofDigitChars_cons]
      cases hDigit : digit? c with
      | none =>
          have hOther : ¬ c.isDigit = true := by
            intro hDigit'
            rw [digit?, if_pos hDigit'] at hDigit
            exact nomatch hDigit
          simp [hOther]
      | some d =>
          rcases digit?_eq_some_iff.mp hDigit with ⟨hIs, rfl⟩
          rw [and_iff_right hIs, Nat.mul_comm 10 value]
          dsimp only
          split
          · next hAbove =>
              have hGrown :=
                le_ofDigitChars cs
                  (value * 10 + (c.toNat - '0'.toNat))
              constructor
              · exact nofun
              · rintro ⟨_, rfl, hLimit⟩
                omega
          · next hBelow => exact ih (Nat.le_of_not_lt hBelow)

theorem readDigits_zero_eq_ok_iff
    (hSome : cs ≠ []) :
    readDigits limit overflow 0 cs = .ok n ↔
      IsDigits cs n ∧ n ≤ limit := by
  rw [readDigits_eq_ok_iff (Nat.zero_le limit)]
  constructor
  · rintro ⟨hDigits, hValue, hLimit⟩
    exact ⟨⟨hSome, hDigits, hValue⟩, hLimit⟩
  · rintro ⟨⟨_, hDigits, hValue⟩, hLimit⟩
    exact ⟨hDigits, hValue, hLimit⟩

theorem IsDigits.head
    {c : Char}
    (h : IsDigits (c :: cs) n) :
    c.isDigit = true :=
  h.digits c List.mem_cons_self

/- Behind a plus sign there are the digits. -/
theorem isNatural_iff_of_plus
    (hSign : s.toList = '+' :: cs) :
    IsNatural s n ↔ IsDigits cs n := by
  constructor
  · intro h
    cases h with
    | plain hDigits =>
        rw [hSign] at hDigits
        exact absurd hDigits.head (by decide)
    | plus hSign' hDigits =>
        rw [hSign] at hSign'
        cases hSign'
        exact hDigits
  · exact IsNatural.plus hSign

theorem isNatural_iff_of_not_plus
    (hSign : ∀ cs, s.toList ≠ '+' :: cs) :
    IsNatural s n ↔ IsDigits s.toList n := by
  constructor
  · intro h
    cases h with
    | plain hDigits => exact hDigits
    | plus hSign' _ => exact absurd hSign' (hSign _)
  · exact IsNatural.plain

theorem not_isDigits_nil :
    ¬ IsDigits [] n :=
  fun h => h.nonempty rfl

/- The numerals of a number in the range are read as the number. -/
theorem readNatural_eq_ok_iff :
    readNatural limit s = .ok n ↔ IsNatural s n ∧ n ≤ limit := by
  unfold readNatural
  split
  · next hNil =>
      rw [isNatural_iff_of_not_plus (by simp [hNil]), hNil]
      simp [not_isDigits_nil]
  · next hSign =>
      rw [isNatural_iff_of_plus hSign]
      simp [not_isDigits_nil]
  · next cs hSome hSign =>
      rw [isNatural_iff_of_plus hSign]
      exact readDigits_zero_eq_ok_iff hSome
  · next hNil _ hSign =>
      rw [isNatural_iff_of_not_plus hSign]
      exact readDigits_zero_eq_ok_iff hNil

theorem isInteger_iff_of_minus
    {n : Int}
    (hSign : s.toList = '-' :: cs) :
    IsInteger s n ↔ ∃ m : Nat, IsDigits cs m ∧ n = -m := by
  constructor
  · intro h
    cases h with
    | natural hNatural =>
        rw [isNatural_iff_of_not_plus (by simp [hSign]), hSign]
          at hNatural
        exact absurd hNatural.head (by decide)
    | minus hSign' hDigits =>
        rw [hSign] at hSign'
        cases hSign'
        exact ⟨_, hDigits, rfl⟩
  · rintro ⟨m, hDigits, rfl⟩
    exact .minus hSign hDigits

theorem isInteger_iff_of_not_minus
    {n : Int}
    (hSign : ∀ cs, s.toList ≠ '-' :: cs) :
    IsInteger s n ↔ ∃ m : Nat, IsNatural s m ∧ n = m := by
  constructor
  · intro h
    cases h with
    | natural hNatural => exact ⟨_, hNatural, rfl⟩
    | minus hSign' _ => exact absurd hSign' (hSign _)
  · rintro ⟨m, hNatural, rfl⟩
    exact .natural hNatural

theorem readInteger_of_not_minus
    (hSign : ∀ cs, s.toList ≠ '-' :: cs) :
    readInteger limit s =
      (readNatural limit s).map fun (n : Nat) => (n : Int) := by
  unfold readInteger readNatural
  split <;> simp_all [Except.map]

theorem readInteger_of_minus
    (hSign : s.toList = '-' :: cs)
    (hSome : cs ≠ []) :
    readInteger limit s =
      (readDigits (limit + 1) .belowRange 0 cs).map
        fun (n : Nat) => -(n : Int) := by
  unfold readInteger
  split <;> simp_all

theorem map_eq_ok_iff
    {α β : Type}
    {f : α → β}
    {read : Except NumeralError α}
    {b : β} :
    read.map f = .ok b ↔ ∃ a, read = .ok a ∧ b = f a := by
  cases read with
  | error cause => simp [Except.map]
  | ok a => simp [Except.map, eq_comm]

/-
  The numerals of a number in the range are read as the number.
  Below zero the range holds one number more.
-/
theorem readInteger_eq_ok_iff
    {n : Int} :
    readInteger limit s = .ok n ↔
      IsInteger s n ∧ -(limit : Int) - 1 ≤ n ∧ n ≤ limit := by
  by_cases hSign : ∃ cs, s.toList = '-' :: cs
  · rcases hSign with ⟨cs, hSign⟩
    rw [isInteger_iff_of_minus hSign]
    by_cases hNil : cs = []
    · subst hNil
      have hRead :
          readInteger limit s = .error .invalidDigit := by
        simp [readInteger, hSign]
      simp [hRead, not_isDigits_nil]
    · rw [readInteger_of_minus hSign hNil, map_eq_ok_iff]
      constructor
      · rintro ⟨m, hRead, rfl⟩
        rcases (readDigits_zero_eq_ok_iff hNil).mp hRead with
          ⟨hDigits, hLimit⟩
        exact ⟨⟨m, hDigits, rfl⟩, by omega, by omega⟩
      · rintro ⟨⟨m, hDigits, rfl⟩, hLower, _⟩
        refine ⟨m, ?_, rfl⟩
        rw [readDigits_zero_eq_ok_iff hNil]
        exact ⟨hDigits, by omega⟩
  · rw [not_exists] at hSign
    rw [isInteger_iff_of_not_minus hSign,
      readInteger_of_not_minus hSign, map_eq_ok_iff]
    constructor
    · rintro ⟨m, hRead, rfl⟩
      rcases readNatural_eq_ok_iff.mp hRead with
        ⟨hNatural, hLimit⟩
      exact ⟨⟨m, hNatural, rfl⟩, by omega, by omega⟩
    · rintro ⟨⟨m, hNatural, rfl⟩, _, hUpper⟩
      refine ⟨m, ?_, rfl⟩
      rw [readNatural_eq_ok_iff]
      exact ⟨hNatural, by omega⟩

------------------------------------------------------------
-- Writing
------------------------------------------------------------

theorem isDigits_toString
    (n : Nat) :
    IsDigits (toString n).toList n := by
  rw [Nat.toString_eq_ofList_toDigits, String.toList_ofList]
  constructor
  · exact Nat.toDigits_ne_nil
  · intro c hMem
    exact Nat.isDigit_of_mem_toDigits (by decide) (by decide) hMem
  · exact Nat.ofDigitChars_ten_toDigits

/- A number in the range is read as it was written. -/
theorem readNatural_toString
    (h : n ≤ limit) :
    readNatural limit (toString n) = .ok n :=
  readNatural_eq_ok_iff.mpr ⟨.plain (isDigits_toString n), h⟩

/- A number is written as one of its numerals. -/
theorem isInteger_toString
    (n : Int) :
    IsInteger (toString n) n := by
  cases n with
  | ofNat m => exact .natural (.plain (isDigits_toString m))
  | negSucc m =>
      have hSign :
          (toString (Int.negSucc m)).toList =
            '-' :: (toString (m + 1)).toList :=
        String.toList_append
      exact .minus hSign (isDigits_toString (m + 1))

theorem IsInteger.toList_ne_nil
    {n : Int}
    (h : IsInteger s n) :
    s.toList ≠ [] := by
  cases h with
  | natural hNatural =>
      cases hNatural with
      | plain hDigits => exact hDigits.nonempty
      | plus hSign _ => simp [hSign]
  | minus hSign _ => simp [hSign]

/- A number is written in digits and a minus sign. -/
theorem isDigit_or_minus_of_mem_toString
    {n : Int}
    {c : Char}
    (h : c ∈ (toString n).toList) :
    c.isDigit = true ∨ c = '-' := by
  cases n with
  | ofNat m => exact .inl ((isDigits_toString m).digits c h)
  | negSucc m =>
      have hSign :
          (toString (Int.negSucc m)).toList =
            '-' :: (toString (m + 1)).toList :=
        String.toList_append
      rw [hSign, List.mem_cons] at h
      rcases h with rfl | hDigit
      · exact .inr rfl
      · exact .inl ((isDigits_toString (m + 1)).digits c hDigit)

end Text

end BlockVolumes
