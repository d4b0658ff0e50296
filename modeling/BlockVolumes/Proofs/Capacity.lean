import BlockVolumes.Capacity

/-
  A size that is allocated lies within the range that it is
  allocated for, however the requested size is rounded.

  Key definitions include:
    * `Capacity.Range.Admits`

  Key theorems include:
    * `Capacity.admits_of_requestedBytes`
    * `Capacity.admits_of_allocate`
-/

namespace BlockVolumes

namespace Capacity

/- Whether a number of bytes lies within a range. -/
structure Range.Admits
    (range : Range)
    (bytes : Nat) : Prop where
  required : ∀ required ∈ range.required?, required ≤ bytes
  limit : ∀ limit ∈ range.limit?, bytes ≤ limit

variable {limits : Limits}
variable {range : Range}
variable {bytes size : Nat}

theorem le_gibRoundedUp
    (bytes : Nat) :
    bytes ≤ gibRoundedUp bytes * gib := by
  unfold gibRoundedUp gib mib kib
  omega

theorem checkBound_eq_ok
    {bound : Bound}
    {value : Nat}
    (h : checkBound limits bound value = .ok bytes) :
    bytes = value := by
  unfold checkBound at h
  split at h
  · exact nomatch h
  · split at h
    · exact nomatch h
    · cases h
      rfl

theorem Range.admits_of_between
    {required limit : Nat}
    (hLower : required ≤ bytes)
    (hUpper : bytes ≤ limit) :
    (between required limit).Admits bytes := by
  constructor
  · rintro _ ⟨⟩
    exact hLower
  · rintro _ ⟨⟩
    exact hUpper

/-
  The requested bytes lie within the range, and they are the
  lower bound if there is one.
-/
theorem admits_of_requestedBytes
    (h : requestedBytes limits (some range) = .ok bytes) :
    range.Admits bytes ∧
      ∀ required ∈ range.required?, required = bytes := by
  cases range with
  | atLeast required =>
      have hBytes := checkBound_eq_ok h
      constructor
      · constructor
        · rintro _ ⟨⟩
          exact Nat.le_of_eq hBytes.symm
        · exact nofun
      · rintro _ ⟨⟩
        exact hBytes.symm
  | atMost limit =>
      have hBytes := checkBound_eq_ok h
      refine ⟨⟨nofun, ?_⟩, nofun⟩
      rintro _ ⟨⟩
      exact Nat.le_of_eq hBytes
  | between required limit =>
      simp only [requestedBytes] at h
      split at h
      · exact nomatch h
      · next hOrdered =>
          cases hLimit : checkBound limits .limit limit with
          | error refusal =>
              rw [hLimit] at h
              exact nomatch h
          | ok _ =>
              rw [hLimit] at h
              have hBytes := checkBound_eq_ok h
              subst hBytes
              constructor
              · exact Range.admits_of_between (Nat.le_refl _)
                  (Nat.le_of_not_lt hOrdered)
              · rintro _ ⟨⟩
                rfl

theorem lower_le_lowerBound
    {required : Nat}
    (h : required ∈ range.required?) :
    required ≤ lowerBound limits (some range) := by
  rw [lowerBound, Option.bind_some, Option.mem_def.mp h]
  exact Nat.le_max_left required limits.minimum

theorem upperBound_le_upper
    {limit : Nat}
    (h : limit ∈ range.limit?) :
    upperBound limits (some range) ≤ limit := by
  rw [upperBound, Option.bind_some, Option.mem_def.mp h]
  exact Nat.min_le_left limit limits.maximum

/- What is allocated once it is known how much is requested. -/
theorem allocate_of_requestedBytes
    {range : Option Range}
    (h : requestedBytes limits range = .ok bytes) :
    allocate limits range =
      if gibRoundedUp bytes * gib ≤ upperBound limits range then
        .ok (gibRoundedUp bytes)
      else if 0 < bytes / gib ∧
          lowerBound limits range ≤ bytes / gib * gib then
        .ok (bytes / gib)
      else
        .error (.noWholeGib (lowerBound limits range)
          (upperBound limits range)) := by
  rw [allocate, h]
  exact pure_bind (m := Except Refusal) bytes _

/- Rounding up or down, the size stays within the range. -/
theorem admits_of_allocate
    (h : allocate limits (some range) = .ok size) :
    range.Admits (size * gib) := by
  cases hBytes : requestedBytes limits (some range) with
  | error refusal =>
      rw [allocate, hBytes] at h
      exact nomatch h
  | ok bytes =>
      rcases admits_of_requestedBytes hBytes with
        ⟨hAdmits, hRequired⟩
      rw [allocate_of_requestedBytes hBytes] at h
      split at h
      · next hUp =>
          cases h
          constructor
          · intro required hLower
            rw [hRequired required hLower]
            exact le_gibRoundedUp bytes
          · intro limit hUpper
            exact Nat.le_trans hUp (upperBound_le_upper hUpper)
      · split at h
        · next hDown =>
            cases h
            constructor
            · intro required hLower
              exact Nat.le_trans (lower_le_lowerBound hLower)
                hDown.2
            · intro limit hUpper
              exact Nat.le_trans (Nat.div_mul_le_self bytes gib)
                (hAdmits.limit limit hUpper)
        · exact nomatch h

end Capacity

end BlockVolumes
