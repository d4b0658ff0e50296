import BlockVolumes.Proofs.Capacity
import Mathlib.Algebra.Group.Nat.Defs
import Mathlib.Tactic.ByContra
import Mathlib.Tactic.SplitIfs

/-
  The allocation of a size is exact: it succeeds wherever a
  whole number of GiB satisfies the range and the limits, with
  the least such number for a lower bound and the greatest one
  for an upper bound alone, and it stays within 64 bits on the
  way.

  Key definitions include:
    * `Capacity.Range.Supported`
    * `Capacity.Fits`
    * `Capacity.allocateInWords?`

  Key theorems include:
    * `Capacity.requestedBytes_eq_ok_iff`
    * `Capacity.allocate_of_eq_lower`
    * `Capacity.allocate_of_eq_upper`
    * `Capacity.allocateInWords?_eq`
    * `Capacity.allocate_exact`
-/

namespace BlockVolumes

namespace Capacity

variable {limits : Limits}
variable {range : Range}
variable {bytes value size k : Nat}

------------------------------------------------------------
-- Whole Numbers of GiB
------------------------------------------------------------

theorem gib_pos : 0 < gib := by
  decide

theorem gibRoundedUp_le_iff :
    gibRoundedUp bytes ≤ k ↔ bytes ≤ k * gib := by
  unfold gibRoundedUp gib mib kib
  omega

theorem le_gibRoundedDown_iff :
    k ≤ bytes / gib ↔ k * gib ≤ bytes :=
  Nat.le_div_iff_mul_le gib_pos

/- A size that is rounded up to itself is rounded down to itself. -/
theorem gibRoundedUp_eq_of_le
    (h : gibRoundedUp bytes * gib ≤ bytes) :
    gibRoundedUp bytes = bytes / gib := by
  apply Nat.le_antisymm
  · exact le_gibRoundedDown_iff.mpr h
  · apply Nat.div_le_of_le_mul
    rw [Nat.mul_comm]
    exact le_gibRoundedUp bytes

/- Less than one GiB is added by rounding up. -/
theorem gibRoundedUp_mul_lt
    (bytes : Nat) :
    gibRoundedUp bytes * gib < bytes + gib := by
  unfold gibRoundedUp gib mib kib
  omega

------------------------------------------------------------
-- Ranges That the Limits Support
------------------------------------------------------------

/-
  Whether each bound of a range is a size that the backend
  offers, and the bounds are in order.
-/
structure Range.Supported
    (limits : Limits)
    (range : Range) : Prop where
  required :
    ∀ required ∈ range.required?,
      limits.minimum ≤ required ∧ required ≤ limits.maximum
  limit :
    ∀ limit ∈ range.limit?,
      limits.minimum ≤ limit ∧ limit ≤ limits.maximum
  ordered :
    ∀ required ∈ range.required?, ∀ limit ∈ range.limit?,
      required ≤ limit

/- The bytes that a range asks for: its lower bound, if it has one. -/
def Range.asked : Range → Nat
  | atLeast required => required
  | atMost limit => limit
  | between required _ => required

theorem checkBound_eq_ok_iff
    {bound : Bound} :
    checkBound limits bound value = .ok bytes ↔
      limits.minimum ≤ value ∧ value ≤ limits.maximum ∧
        value = bytes := by
  unfold checkBound
  split
  · next hBelow =>
      constructor
      · exact nofun
      · rintro ⟨hMinimum, _⟩
        omega
  · next hAbove =>
      split
      · constructor
        · exact nofun
        · rintro ⟨_, hMaximum, _⟩
          omega
      · next hBelow =>
          rw [Except.ok.injEq]
          constructor
          · intro hValue
            exact ⟨by omega, by omega, hValue⟩
          · rintro ⟨_, _, hValue⟩
            exact hValue

/- Bytes are asked for exactly within a range that is supported. -/
theorem requestedBytes_eq_ok_iff :
    requestedBytes limits (some range) = .ok bytes ↔
      range.Supported limits ∧ range.asked = bytes := by
  cases range with
  | atLeast required =>
      refine checkBound_eq_ok_iff.trans ?_
      constructor
      · rintro ⟨hMinimum, hMaximum, hValue⟩
        refine ⟨⟨?_, nofun, nofun⟩, hValue⟩
        rintro _ ⟨⟩
        exact ⟨hMinimum, hMaximum⟩
      · rintro ⟨hSupported, hValue⟩
        rcases hSupported.required required rfl with
          ⟨hMinimum, hMaximum⟩
        exact ⟨hMinimum, hMaximum, hValue⟩
  | atMost limit =>
      refine checkBound_eq_ok_iff.trans ?_
      constructor
      · rintro ⟨hMinimum, hMaximum, hValue⟩
        refine ⟨⟨nofun, ?_, nofun⟩, hValue⟩
        rintro _ ⟨⟩
        exact ⟨hMinimum, hMaximum⟩
      · rintro ⟨hSupported, hValue⟩
        rcases hSupported.limit limit rfl with
          ⟨hMinimum, hMaximum⟩
        exact ⟨hMinimum, hMaximum, hValue⟩
  | between required limit =>
      simp only [requestedBytes]
      split
      · next hDisorder =>
          constructor
          · intro h
            cases h
          · rintro ⟨hSupported, _⟩
            have hOrdered :=
              hSupported.ordered required rfl limit rfl
            omega
      · next hOrdered =>
          constructor
          · intro h
            cases hLimit : checkBound limits .limit limit with
            | error refusal =>
                rw [hLimit] at h
                cases h
            | ok checked =>
                rw [hLimit] at h
                rcases checkBound_eq_ok_iff.mp hLimit with
                  ⟨hLimitMinimum, hLimitMaximum, _⟩
                rcases checkBound_eq_ok_iff.mp h with
                  ⟨hMinimum, hMaximum, hValue⟩
                refine ⟨⟨?_, ?_, ?_⟩, hValue⟩
                · rintro _ ⟨⟩
                  exact ⟨hMinimum, hMaximum⟩
                · rintro _ ⟨⟩
                  exact ⟨hLimitMinimum, hLimitMaximum⟩
                · rintro _ ⟨⟩ _ ⟨⟩
                  exact Nat.le_of_not_lt hOrdered
          · rintro ⟨hSupported, hValue⟩
            rcases hSupported.required required rfl with
              ⟨hMinimum, hMaximum⟩
            rcases hSupported.limit limit rfl with
              ⟨hLimitMinimum, hLimitMaximum⟩
            rw [checkBound_eq_ok_iff.mpr
              ⟨hLimitMinimum, hLimitMaximum, rfl⟩]
            exact checkBound_eq_ok_iff.mpr
              ⟨hMinimum, hMaximum, hValue⟩

------------------------------------------------------------
-- Sizes That Fit
------------------------------------------------------------

/-
  Whether a number of GiB is a size that both the range and
  the limits allow.
-/
structure Fits
    (limits : Limits)
    (range : Range)
    (k : Nat) : Prop where
  whole : 1 ≤ k
  lower : lowerBound limits (some range) ≤ k * gib
  upper : k * gib ≤ upperBound limits (some range)

/- A lower bound that the backend offers is the lowest size. -/
theorem Range.Supported.lowerBound_eq
    (hSupported : range.Supported limits)
    (hRequired : range.required?.isSome) :
    lowerBound limits (some range) = range.asked := by
  cases range with
  | atMost limit => exact nomatch hRequired
  | atLeast required =>
      exact Nat.max_eq_left (hSupported.required required rfl).1
  | between required limit =>
      exact Nat.max_eq_left (hSupported.required required rfl).1

/- An upper bound that stands alone is the highest size. -/
theorem Range.Supported.upperBound_eq
    (hSupported : range.Supported limits)
    (hRequired : range.required? = none) :
    upperBound limits (some range) = range.asked := by
  cases range with
  | atMost limit =>
      exact Nat.min_eq_left (hSupported.limit limit rfl).2
  | atLeast required => exact nomatch hRequired
  | between required limit => exact nomatch hRequired

/- What is asked for lies between the lowest and highest size. -/
theorem Range.Supported.asked_between
    (hSupported : range.Supported limits) :
    lowerBound limits (some range) ≤ range.asked ∧
      range.asked ≤ upperBound limits (some range) := by
  cases range with
  | atLeast required =>
      rcases hSupported.required required rfl with
        ⟨hMinimum, hMaximum⟩
      exact ⟨Nat.max_le.mpr ⟨Nat.le_refl _, hMinimum⟩, hMaximum⟩
  | atMost limit =>
      rcases hSupported.limit limit rfl with
        ⟨hMinimum, hMaximum⟩
      exact ⟨hMinimum, Nat.le_min.mpr ⟨Nat.le_refl _, hMaximum⟩⟩
  | between required limit =>
      rcases hSupported.required required rfl with
        ⟨hMinimum, hMaximum⟩
      have hOrdered := hSupported.ordered required rfl limit rfl
      exact ⟨Nat.max_le.mpr ⟨Nat.le_refl _, hMinimum⟩,
        Nat.le_min.mpr ⟨hOrdered, hMaximum⟩⟩

------------------------------------------------------------
-- What Is Allocated
------------------------------------------------------------

/-
  Where the lowest size is asked for, rounding down helps only
  if rounding up has changed nothing.
-/
theorem allocate_of_eq_lower
    (hBytes : requestedBytes limits (some range) = .ok bytes)
    (hLower : lowerBound limits (some range) = bytes)
    (hUpper : bytes ≤ upperBound limits (some range)) :
    allocate limits (some range) =
      if gibRoundedUp bytes * gib ≤
          upperBound limits (some range) then
        .ok (gibRoundedUp bytes)
      else
        .error (.noWholeGib (lowerBound limits (some range))
          (upperBound limits (some range))) := by
  rw [allocate_of_requestedBytes hBytes]
  split
  · rfl
  · next hUp =>
      apply if_neg
      rintro ⟨_, hDown⟩
      apply hUp
      have hWhole : gibRoundedUp bytes ≤ bytes / gib := by
        apply gibRoundedUp_le_iff.mpr
        rw [← hLower] at hDown ⊢
        exact hDown
      exact Nat.le_trans (le_gibRoundedDown_iff.mp hWhole) hUpper

/-
  Where the highest size is asked for, rounding up helps only
  if it gives the same size as rounding down.
-/
theorem allocate_of_eq_upper
    (hBytes : requestedBytes limits (some range) = .ok bytes)
    (hUpper : upperBound limits (some range) = bytes)
    (hLower : lowerBound limits (some range) ≤ bytes)
    (hPositive : 1 ≤ bytes) :
    allocate limits (some range) =
      if 0 < bytes / gib ∧
          lowerBound limits (some range) ≤ bytes / gib * gib then
        .ok (bytes / gib)
      else
        .error (.noWholeGib (lowerBound limits (some range))
          (upperBound limits (some range))) := by
  rw [allocate_of_requestedBytes hBytes]
  split
  · next hUp =>
      rw [hUpper] at hUp
      have hSame := gibRoundedUp_eq_of_le hUp
      have hExact : bytes / gib * gib = bytes := by
        apply Nat.le_antisymm
        · exact Nat.div_mul_le_self bytes gib
        · rw [← hSame]
          exact le_gibRoundedUp bytes
      have hSome : 0 < bytes / gib := by
        apply Nat.pos_of_ne_zero
        intro hZero
        rw [hZero] at hExact
        omega
      rw [if_pos ⟨hSome, by rw [hExact]; exact hLower⟩, hSame]
  · rfl

/-
  The size to be allocated: of all those that fit it is the
  least, or the greatest if there is no lower bound.
-/
structure Best
    (limits : Limits)
    (range : Range)
    (size : Nat) : Prop where
  fits : Fits limits range size
  least :
    range.required?.isSome → ∀ k, Fits limits range k → size ≤ k
  greatest :
    range.required? = none → ∀ k, Fits limits range k → k ≤ size

theorem best_of_required
    (hSupported : range.Supported limits)
    (hRequired : range.required?.isSome)
    (hPositive : 1 ≤ range.asked)
    (hUp :
      gibRoundedUp range.asked * gib ≤
        upperBound limits (some range)) :
    Best limits range (gibRoundedUp range.asked) := by
  have hLower := hSupported.lowerBound_eq hRequired
  refine ⟨⟨?_, ?_, hUp⟩, ?_, ?_⟩
  · by_contra hNone
    have hZero : range.asked ≤ 0 * gib :=
      gibRoundedUp_le_iff.mp (by omega)
    omega
  · rw [hLower]
    exact le_gibRoundedUp range.asked
  · intro _ k hFits
    apply gibRoundedUp_le_iff.mpr
    rw [← hLower]
    exact hFits.lower
  · intro hNone
    rw [hNone] at hRequired
    exact nomatch hRequired

theorem best_of_limit
    (hSupported : range.Supported limits)
    (hRequired : range.required? = none)
    (hSome : 0 < range.asked / gib)
    (hDown :
      lowerBound limits (some range) ≤ range.asked / gib * gib) :
    Best limits range (range.asked / gib) := by
  have hUpper := hSupported.upperBound_eq hRequired
  refine ⟨⟨hSome, hDown, ?_⟩, ?_, ?_⟩
  · rw [hUpper]
    exact Nat.div_mul_le_self range.asked gib
  · intro hSomeRequired
    rw [hRequired] at hSomeRequired
    exact nomatch hSomeRequired
  · intro _ k hFits
    apply le_gibRoundedDown_iff.mpr
    rw [← hUpper]
    exact hFits.upper

/-
  Either the best size is allocated, or there is none and the
  request is refused.
-/
theorem allocate_best
    (hSupported : range.Supported limits)
    (hPositive : 1 ≤ range.asked) :
    (∃ size,
      allocate limits (some range) = .ok size ∧
        Best limits range size) ∨
      (¬ ∃ k, Fits limits range k) ∧
        allocate limits (some range) =
          .error (.noWholeGib (lowerBound limits (some range))
            (upperBound limits (some range))) := by
  have hBytes :
      requestedBytes limits (some range) = .ok range.asked :=
    requestedBytes_eq_ok_iff.mpr ⟨hSupported, rfl⟩
  rcases hSupported.asked_between with ⟨hAbove, hBelow⟩
  by_cases hRequired : range.required?.isSome
  · have hLower := hSupported.lowerBound_eq hRequired
    rw [allocate_of_eq_lower hBytes hLower hBelow]
    split
    · next hUp =>
        exact .inl ⟨_, rfl,
          best_of_required hSupported hRequired hPositive hUp⟩
    · next hUp =>
        refine .inr ⟨?_, rfl⟩
        rintro ⟨k, hFits⟩
        have hLeast : gibRoundedUp range.asked ≤ k := by
          apply gibRoundedUp_le_iff.mpr
          rw [← hLower]
          exact hFits.lower
        apply hUp
        exact Nat.le_trans (Nat.mul_le_mul_right gib hLeast)
          hFits.upper
  · rw [Bool.not_eq_true, Option.isSome_eq_false_iff,
      Option.isNone_iff_eq_none] at hRequired
    have hUpper := hSupported.upperBound_eq hRequired
    rw [allocate_of_eq_upper hBytes hUpper hAbove hPositive]
    split
    · next hDown =>
        exact .inl ⟨_, rfl,
          best_of_limit hSupported hRequired hDown.1 hDown.2⟩
    · next hDown =>
        refine .inr ⟨?_, rfl⟩
        rintro ⟨k, hFits⟩
        have hGreatest : k ≤ range.asked / gib := by
          apply le_gibRoundedDown_iff.mpr
          rw [← hUpper]
          exact hFits.upper
        apply hDown
        constructor
        · exact Nat.lt_of_lt_of_le hFits.whole hGreatest
        · exact Nat.le_trans hFits.lower
            (Nat.mul_le_mul_right gib hGreatest)

------------------------------------------------------------
-- Words
------------------------------------------------------------

/- A number, unless it takes more than 64 bits. -/
def word?
    (n : Nat) : Option Nat :=
  if n < UInt64.size then some n else none

/-
  The allocation in words of 64 bits. There is no result if a
  sum or a product on the way does not fit into a word.
-/
def allocateInWords?
    (limits : Limits)
    (range : Option Range) : Option (Except Refusal Nat) :=
  match requestedBytes limits range with
  | .error refusal => some (.error refusal)
  | .ok bytes => do
      let upper := upperBound limits range
      let lower := lowerBound limits range
      let sum ← word? (bytes + gib)
      let up := (sum - 1) / gib
      let down := bytes / gib
      let upBytes ← word? (up * gib)
      let downBytes ← word? (down * gib)
      if upBytes ≤ upper then
        some (.ok up)
      else if 0 < down ∧ lower ≤ downBytes then
        some (.ok down)
      else
        some (.error (.noWholeGib lower upper))

theorem word?_bind
    {α : Type}
    {next : Nat → Option α}
    (h : value < UInt64.size) :
    word? value >>= next = next value := by
  rw [word?, if_pos h]
  rfl

/- Every sum and product on the way fits into a word. -/
theorem allocateInWords?_eq
    {range : Option Range}
    (hRoom :
      ∀ bytes, requestedBytes limits range = .ok bytes →
        bytes < 2 ^ 63) :
    allocateInWords? limits range =
      some (allocate limits range) := by
  unfold allocateInWords?
  split
  · next refusal hRefusal =>
      rw [allocate, hRefusal]
      rfl
  · next bytes hBytes =>
      have hSmall := hRoom bytes hBytes
      have hGib : gib < 2 ^ 63 := by decide
      have hWord : 2 ^ 63 + 2 ^ 63 = UInt64.size := by decide
      have hSum : bytes + gib < UInt64.size := by omega
      have hUp : gibRoundedUp bytes * gib < UInt64.size :=
        Nat.lt_trans (gibRoundedUp_mul_lt bytes) hSum
      have hDown : bytes / gib * gib < UInt64.size :=
        Nat.lt_of_le_of_lt (Nat.div_mul_le_self bytes gib)
          (by omega)
      have hRounded :
          (bytes + gib - 1) / gib = gibRoundedUp bytes := by
        rw [gibRoundedUp]
      rw [allocate_of_requestedBytes hBytes, word?_bind hSum,
        hRounded, word?_bind hUp, word?_bind hDown]
      split_ifs <;> rfl

------------------------------------------------------------
-- Allocation as a Whole
------------------------------------------------------------

/- A size is allocated only for a range that is supported. -/
theorem supported_of_allocate
    (h : allocate limits (some range) = .ok size) :
    range.Supported limits := by
  cases hBytes : requestedBytes limits (some range) with
  | error refusal =>
      rw [allocate, hBytes] at h
      cases h
  | ok bytes => exact (requestedBytes_eq_ok_iff.mp hBytes).1

theorem best_of_allocate
    (hPositive : 1 ≤ range.asked)
    (h : allocate limits (some range) = .ok size) :
    Best limits range size := by
  rcases allocate_best (supported_of_allocate h) hPositive with
    ⟨best, hSize, hBest⟩ | ⟨_, hRefused⟩
  · rw [h] at hSize
    cases hSize
    exact hBest
  · rw [h] at hRefused
    exact nomatch hRefused

theorem Range.asked_mem
    (range : Range) :
    range.asked ∈ range.required? ∨ range.asked ∈ range.limit? := by
  cases range with
  | atLeast required => exact .inl rfl
  | atMost limit => exact .inr rfl
  | between required limit => exact .inl rfl

/-
  A size is allocated exactly if the range is supported and a
  whole number of GiB fits. It is the least such number where
  the range has a lower bound, and the greatest one where it
  has none. No word overflows for bounds of 63 bits.
-/
theorem allocate_exact
    (limits : Limits)
    (range : Range)
    (hBounds :
      ∀ bound, bound ∈ range.required? ∨ bound ∈ range.limit? →
        1 ≤ bound ∧ bound < 2 ^ 63) :
    ((∃ bytes, requestedBytes limits (some range) = .ok bytes) ↔
        range.Supported limits) ∧
      ((∃ size, allocate limits (some range) = .ok size) ↔
        range.Supported limits ∧ ∃ k, Fits limits range k) ∧
      (∀ size, allocate limits (some range) = .ok size →
        Best limits range size) ∧
      (range.Supported limits → (¬ ∃ k, Fits limits range k) →
        allocate limits (some range) =
          .error (.noWholeGib (lowerBound limits (some range))
            (upperBound limits (some range)))) ∧
      allocateInWords? limits (some range) =
        some (allocate limits (some range)) := by
  have hAsked := hBounds range.asked range.asked_mem
  refine ⟨?_, ?_, ?_, ?_, ?_⟩
  · constructor
    · rintro ⟨bytes, hBytes⟩
      exact (requestedBytes_eq_ok_iff.mp hBytes).1
    · intro hSupported
      exact ⟨_, requestedBytes_eq_ok_iff.mpr ⟨hSupported, rfl⟩⟩
  · constructor
    · rintro ⟨size, hSize⟩
      have hSupported := supported_of_allocate hSize
      refine ⟨hSupported, size, ?_⟩
      exact (best_of_allocate hAsked.1 hSize).fits
    · rintro ⟨hSupported, hSome⟩
      rcases allocate_best hSupported hAsked.1 with
        ⟨size, hSize, _⟩ | ⟨hNone, _⟩
      · exact ⟨size, hSize⟩
      · exact absurd hSome hNone
  · intro size hSize
    exact best_of_allocate hAsked.1 hSize
  · intro hSupported hNone
    rcases allocate_best hSupported hAsked.1 with
      ⟨size, _, hBest⟩ | ⟨_, hRefused⟩
    · exact absurd ⟨size, hBest.fits⟩ hNone
    · exact hRefused
  · apply allocateInWords?_eq
    intro bytes hBytes
    rw [← (requestedBytes_eq_ok_iff.mp hBytes).2]
    exact hAsked.2

/-
  Rounding up would cross an upper bound that is no whole
  number of GiB, so that the size is rounded down.
-/
theorem allocate_exact_rounded_down :
    let limits : Limits := ⟨gib, 100 * gib, 10 * gib⟩
    let range : Range := .atMost (7 * gib + 5)
    (∀ bound, bound ∈ range.required? ∨ bound ∈ range.limit? →
        1 ≤ bound ∧ bound < 2 ^ 63) ∧
      allocate limits (some range) = .ok 7 ∧
      Best limits range 7 ∧
      allocateInWords? limits (some range) = some (.ok 7) := by
  intro limits range
  have hBounds :
      ∀ bound, bound ∈ range.required? ∨ bound ∈ range.limit? →
        1 ≤ bound ∧ bound < 2 ^ 63 := by
    rintro _ (⟨⟨⟩⟩ | ⟨⟨⟩⟩)
    decide
  have hSize : allocate limits (some range) = .ok 7 := rfl
  rcases allocate_exact limits range hBounds with
    ⟨_, _, hBest, _, hWords⟩
  rw [hSize] at hWords
  exact ⟨hBounds, hSize, hBest 7 hSize, hWords⟩

end Capacity

end BlockVolumes
